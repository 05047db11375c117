import Stockroom.Database.Row

/-!
# Cells

The rows of the four tables as the tables keep them.  A row that was put in by
hand may leave any cell empty; it can be read as long as no cell is empty that
a row has to have.  Nothing equals an empty cell, and empty cells come last.
-/

namespace Stockroom.Database

structure InventoryCells where
  id : Option Uuid
  product : Option String
  available : Option Int32
  reserved : Option Int32
  lowStockThreshold : Option Int32
  lastRestock : Option Instant
  createdAt : Option Instant
  updatedAt : Option Instant
deriving DecidableEq

structure ReservationCells where
  id : Option Uuid
  orderId : Option String
  status : Option String
  expiresAt : Option Instant
  createdAt : Option Instant
  updatedAt : Option Instant
deriving DecidableEq

structure ItemCells where
  reservation : Option Uuid
  position : Option Int32
  product : Option String
  quantity : Option Int32
deriving DecidableEq

structure ProcessedCells where
  key : Option String
  commandId : Option Uuid
  result : Option Json
  processedAt : Option Instant

/-- Whether one cell comes before another. -/
def cellBefore {α : Type} [LT α] [DecidableLT α] : (left right : Option α) → Bool
  | some left, some right => left < right
  | some _, none => true
  | none, _ => false

namespace InventoryCells

def ofRow (row : InventoryRow) : InventoryCells where
  id := some row.id
  product := some row.product
  available := some row.available
  reserved := some row.reserved
  lowStockThreshold := some row.lowStockThreshold
  lastRestock := row.lastRestock
  createdAt := some row.createdAt
  updatedAt := some row.updatedAt

/-- The row, if it can be read. -/
def row? (cells : InventoryCells) : Option InventoryRow := do
  return {
    id := ← cells.id
    product := ← cells.product
    available := ← cells.available
    reserved := ← cells.reserved
    lowStockThreshold := ← cells.lowStockThreshold
    lastRestock := cells.lastRestock
    createdAt := ← cells.createdAt
    updatedAt := ← cells.updatedAt }

@[simp]
theorem row?_ofRow (row : InventoryRow) : (ofRow row).row? = some row :=
  rfl

end InventoryCells

namespace ReservationCells

def ofRow (row : ReservationRow) : ReservationCells where
  id := some row.id
  orderId := some row.orderId
  status := some row.status
  expiresAt := some row.expiresAt
  createdAt := some row.createdAt
  updatedAt := some row.updatedAt

def row? (cells : ReservationCells) : Option ReservationRow := do
  return {
    id := ← cells.id
    orderId := ← cells.orderId
    status := ← cells.status
    expiresAt := ← cells.expiresAt
    createdAt := ← cells.createdAt
    updatedAt := ← cells.updatedAt }

@[simp]
theorem row?_ofRow (row : ReservationRow) : (ofRow row).row? = some row :=
  rfl

end ReservationCells

namespace ItemCells

def ofRow (row : ItemRow) : ItemCells where
  reservation := some row.reservation
  position := some row.position
  product := some row.product
  quantity := some row.quantity

def row? (cells : ItemCells) : Option ItemRow := do
  return {
    reservation := ← cells.reservation
    position := ← cells.position
    product := ← cells.product
    quantity := ← cells.quantity }

@[simp]
theorem row?_ofRow (row : ItemRow) : (ofRow row).row? = some row :=
  rfl

end ItemCells

namespace ProcessedCells

def ofRow (row : ProcessedRow) : ProcessedCells where
  key := some row.key
  commandId := some row.commandId
  result := row.result
  processedAt := row.processedAt

def row? (cells : ProcessedCells) : Option ProcessedRow := do
  return {
    key := ← cells.key
    commandId := ← cells.commandId
    result := cells.result
    processedAt := cells.processedAt }

@[simp]
theorem row?_ofRow (row : ProcessedRow) : (ofRow row).row? = some row :=
  rfl

end ProcessedCells

end Stockroom.Database
