import Stockroom.Database.Statement
import Stockroom.Sorting

/-!
# Tables

The four tables and what statements do to them.  Rows keep the order of their
insertion.  A row that is inserted or changed has to pass the checks of its
table, then its unique keys, then its references; a statement that fails
changes nothing.
-/

namespace Stockroom.Database

/-- Why the database refused a statement. -/
structure Refusal where
  code : String
  message : String
deriving DecidableEq, Repr

namespace Refusal

def uniqueCode : String := "23505"

def duplicateKey (constraint : String) : Refusal :=
  ⟨uniqueCode, "duplicate key value violates unique constraint \"" ++ constraint ++ "\""⟩

def failedCheck (table constraint : String) : Refusal :=
  ⟨"23514", "new row for relation \"" ++ table ++ "\" violates check constraint \"" ++
    constraint ++ "\""⟩

def missingReference (table constraint : String) : Refusal :=
  ⟨"23503", "insert or update on table \"" ++ table ++
    "\" violates foreign key constraint \"" ++ constraint ++ "\""⟩

def nulInText : Refusal :=
  ⟨"22021", "invalid byte sequence for encoding \"UTF8\": 0x00"⟩

def nulInDocument : Refusal :=
  ⟨"22P05", "unsupported Unicode escape sequence"⟩

def aborted : Refusal :=
  ⟨"25P02", "current transaction is aborted, commands ignored until end of transaction block"⟩

end Refusal

structure Tables where
  inventory : List InventoryCells
  reservations : List ReservationCells
  items : List ItemCells
  processed : List ProcessedCells

namespace Tables

def empty : Tables := ⟨[], [], [], []⟩

instance : Inhabited Tables :=
  ⟨empty⟩

/-- Refuses unless a condition holds. -/
def require (condition : Bool) (refusal : Refusal) : Except Refusal Unit :=
  if condition then .ok () else .error refusal

def checkInventory (row : InventoryRow) : Except Refusal Unit := do
  require (0 ≤ row.available)
    (.failedCheck "inventory" "inventory_available_quantity_check")
  require (0 ≤ row.reserved)
    (.failedCheck "inventory" "inventory_reserved_quantity_check")
  require (0 ≤ row.lowStockThreshold)
    (.failedCheck "inventory" "inventory_low_stock_threshold_check")

def checkStatus (status : String) : Except Refusal Unit :=
  require (Status.ofWord? status).isSome
    (.failedCheck "reservations" "reservations_status_check")

/-- Refuses a row that has its id or its product in common with another. -/
def checkInventoryKeys (row : InventoryRow) (others : List InventoryCells) :
    Except Refusal Unit := do
  require (others.all (·.id != some row.id)) (.duplicateKey "inventory_pkey")
  require (others.all (·.product != some row.product)) (.duplicateKey "inventory_product_id_key")

def checkReservationKey (id : Uuid) (others : List ReservationCells) : Except Refusal Unit :=
  require (others.all (·.id != some id)) (.duplicateKey "reservations_pkey")

/-- Changes the chosen rows one after another.  What a row becomes may depend on all others. -/
def changeRows {Row : Type} (chosen : Row → Bool)
    (change : Row → (others : List Row) → Except Refusal Row) (before : List Row) :
    List Row → Except Refusal (List Row)
  | [] => .ok before
  | row :: rest => do
    let changed ← if chosen row then change row (before ++ rest) else .ok row
    changeRows chosen change (before ++ [changed]) rest

def insertInventory (tables : Tables) (row : InventoryRow) : Except Refusal Tables := do
  checkInventory row
  checkInventoryKeys row tables.inventory
  return { tables with inventory := tables.inventory ++ [.ofRow row] }

/-- Sets all columns but the id.  A restock that is not given is not a column that is set. -/
def setInventory (row : InventoryRow) (old : InventoryCells) (others : List InventoryCells) :
    Except Refusal InventoryCells := do
  let changed := { row with lastRestock := row.lastRestock.orElse (fun _ => old.lastRestock) }
  checkInventory changed
  checkInventoryKeys changed others
  return .ofRow changed

def updateInventory (tables : Tables) (row : InventoryRow) : Except Refusal Tables := do
  let inventory ← changeRows (·.id == some row.id) (setInventory row) [] tables.inventory
  return { tables with inventory := inventory }

def insertReservation (tables : Tables) (row : ReservationRow) : Except Refusal Tables := do
  checkStatus row.status
  checkReservationKey row.id tables.reservations
  return { tables with reservations := tables.reservations ++ [.ofRow row] }

def settleReservation (tables : Tables) (id : Uuid) (status : String) (updatedAt : Instant) :
    Except Refusal Tables := do
  let settle (row : ReservationCells) (others : List ReservationCells) :
      Except Refusal ReservationCells := do
    checkStatus status
    checkReservationKey id others
    return { row with status := some status, updatedAt := some updatedAt }
  let reservations ← changeRows (·.id == some id) settle [] tables.reservations
  return { tables with reservations := reservations }

def insertItem (tables : Tables) (row : ItemRow) : Except Refusal Tables := do
  require (0 < row.quantity)
    (.failedCheck "reservation_items" "reservation_items_quantity_check")
  require (tables.items.all (fun other =>
      other.reservation != some row.reservation || other.position != some row.position))
    (.duplicateKey "reservation_items_pkey")
  require (tables.reservations.any (·.id == some row.reservation))
    (.missingReference "reservation_items" "reservation_items_reservation_id_fkey")
  return { tables with items := tables.items ++ [.ofRow row] }

def insertProcessed (tables : Tables) (row : ProcessedRow) : Except Refusal Tables := do
  require (tables.processed.all (·.key != some row.key))
    (.duplicateKey "processed_commands_pkey")
  return { tables with processed := tables.processed ++ [.ofRow row] }

/-- Whether a row is listed as low on stock, against one bound or against its own. -/
def isListed (bound : Option Int32) (row : InventoryCells) : Bool :=
  match row.available, bound.orElse (fun _ => row.lowStockThreshold) with
  | some available, some bound => 0 < available && available ≤ bound
  | _, _ => false

/-- The order of the low stock listing: by available units, then by product. -/
def listedBefore (left right : InventoryCells) : Bool :=
  cellBefore left.available right.available ||
    (left.available == right.available && !cellBefore right.product left.product)

/-- The order of item rows: by reservation, then by position. -/
def itemBefore (left right : ItemCells) : Bool :=
  cellBefore left.reservation right.reservation ||
    (left.reservation == right.reservation && !cellBefore right.position left.position)

def isOverdue (asOf : Instant) (row : ReservationCells) : Bool :=
  row.status == some Status.pending.word && row.expiresAt.any (· < asOf)

/-- The result of a statement and the tables after it. -/
def execute (tables : Tables) : (statement : Statement) →
    Except Refusal (statement.Result × Tables)
  | .begin | .setLockTimeout _ | .commit | .rollback => .ok ((), tables)
  | .insertInventory row => return (row, ← tables.insertInventory row)
  | .findInventory product | .lockInventory product =>
    .ok (tables.inventory.find? (·.product == some product), tables)
  | .inventoryAmong products =>
    .ok (tables.inventory.filter (fun row => row.product.any products.contains), tables)
  | .updateInventory row => return ((), ← tables.updateInventory row)
  | .deleteInventory product =>
    .ok ((), { tables with inventory := tables.inventory.filter (·.product != some product) })
  | .countLowStock bound => .ok ((tables.inventory.filter (isListed bound)).length, tables)
  | .lowStock bound limit offset =>
    let listing := Sorting.sort listedBefore (tables.inventory.filter (isListed bound))
    -- An offset below zero is beyond all rows.
    let rest := if offset < 0 then [] else listing.drop offset.toNat
    .ok (rest.take limit.toNat, tables)
  | .insertReservation row => return ((), ← tables.insertReservation row)
  | .findReservation id | .lockReservation id =>
    .ok (tables.reservations.find? (·.id == some id), tables)
  | .settleReservation id status updatedAt =>
    return ((), ← tables.settleReservation id status updatedAt)
  | .overdueReservations asOf limit =>
    let overdue := Sorting.sort (fun left right => !cellBefore right.expiresAt left.expiresAt)
      (tables.reservations.filter (isOverdue asOf))
    .ok (overdue.take limit, tables)
  | .insertItems rows => return ((), ← rows.foldlM insertItem tables)
  | .itemsOf reservations =>
    let items := tables.items.filter (fun row => row.reservation.any reservations.contains)
    .ok (Sorting.sort itemBefore items, tables)
  | .findProcessed key => .ok (tables.processed.find? (·.key == some key), tables)
  | .insertProcessed row => return ((), ← tables.insertProcessed row)

end Tables

end Stockroom.Database
