import Stockroom.Store.Call

/-!
# Rows

The rows of the four tables and the domain values they stand for.  A column
holds any 32-bit number and any text, so a row may stand for nothing; the
first column that is at fault is named then.
-/

namespace Stockroom

namespace Database

structure InventoryRow where
  id : Uuid
  product : String
  available : Int32
  reserved : Int32
  lowStockThreshold : Int32
  lastRestock : Option Instant
  createdAt : Instant
  updatedAt : Instant
deriving DecidableEq

structure ReservationRow where
  id : Uuid
  orderId : String
  status : String
  expiresAt : Instant
  createdAt : Instant
  updatedAt : Instant
deriving DecidableEq

/-- One line of a reservation; positions count from zero. -/
structure ItemRow where
  reservation : Uuid
  position : Int32
  product : String
  quantity : Int32
deriving DecidableEq

structure ProcessedRow where
  key : String
  commandId : Uuid
  result : Option Json
  processedAt : Option Instant

def quantityColumn (column : String) (value : Int32) : Except StockError Quantity :=
  (Quantity.ofInt value.toInt).mapError
    (fun violation => .corruptRow (column ++ ": " ++ violation.message))

def productColumn (text : String) : Except StockError ProductId :=
  (ProductId.ofText text).mapError
    (fun violation => .corruptRow ("product_id: " ++ violation.message))

/-- A quantity as a column holds it. -/
def ofQuantity (quantity : Quantity) : Int32 :=
  .ofInt quantity.value

namespace InventoryRow

def ofRecord (record : StockRecord) : InventoryRow where
  id := record.id
  product := record.product.text
  available := ofQuantity record.available
  reserved := ofQuantity record.reserved
  lowStockThreshold := ofQuantity record.lowStockThreshold
  lastRestock := record.lastRestock
  createdAt := record.createdAt
  updatedAt := record.updatedAt

def toRecord (row : InventoryRow) : Except StockError StockRecord := do
  return {
    id := row.id
    product := ← productColumn row.product
    available := ← quantityColumn "available_quantity" row.available
    reserved := ← quantityColumn "reserved_quantity" row.reserved
    lowStockThreshold := ← quantityColumn "low_stock_threshold" row.lowStockThreshold
    lastRestock := row.lastRestock
    createdAt := row.createdAt
    updatedAt := row.updatedAt }

end InventoryRow

namespace ReservationRow

def ofReservation (reservation : Reservation) : ReservationRow where
  id := reservation.id
  orderId := reservation.orderId
  status := reservation.status.word
  expiresAt := reservation.expiresAt
  createdAt := reservation.createdAt
  updatedAt := reservation.updatedAt

end ReservationRow

namespace ItemRow

/-- The number of lines that positions can tell apart. -/
def positionLimit : Nat := 2147483648

def ofLines (reservation : Uuid) (position : Nat) :
    List ReservationLine → Except StockError (List ItemRow)
  | [] => .ok []
  | line :: rest => do
    if positionLimit ≤ position then throw (.lineOutOfRange position)
    let row : ItemRow := {
      reservation := reservation
      position := .ofInt position
      product := line.product.text
      quantity := ofQuantity line.quantity }
    return row :: (← ofLines reservation (position + 1) rest)

def ofReservation (reservation : Reservation) : Except StockError (List ItemRow) :=
  ofLines reservation.id 0 reservation.lines

def toLine (row : ItemRow) : Except StockError ReservationLine := do
  return ⟨← productColumn row.product, ← quantityColumn "quantity" row.quantity⟩

end ItemRow

/-- Reads a status column. -/
def statusColumn (text : String) : Except StockError Status :=
  match Status.ofWord? text with
  | some status => .ok status
  | none => .error (.violation (.unknownStatus text))

/-- A reservation from its row and the rows of its lines in order of their position. -/
def ReservationRow.toReservation (row : ReservationRow) (items : List ItemRow) :
    Except StockError Reservation := do
  let status ← statusColumn row.status
  let lines ← items.mapM ItemRow.toLine
  if lines.isEmpty then
    throw (.corruptRow ("reservation " ++ row.id.text ++ " has no items"))
  return {
    id := row.id
    orderId := row.orderId
    lines := lines
    status := status
    expiresAt := row.expiresAt
    createdAt := row.createdAt
    updatedAt := row.updatedAt }

namespace ProcessedRow

def ofCommand (command : ProcessedCommand) : ProcessedRow where
  key := command.key
  commandId := command.commandId
  result := command.result
  processedAt := some command.processedAt

/-- A row without a time counts as processed at present. -/
def toCommand (row : ProcessedRow) (present : Instant) : ProcessedCommand where
  key := row.key
  commandId := row.commandId
  result := row.result
  processedAt := row.processedAt.getD present

end ProcessedRow

end Database

end Stockroom
