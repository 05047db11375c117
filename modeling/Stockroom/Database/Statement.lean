import Stockroom.Database.Cells
import Stockroom.Json.Document
import Stockroom.Time.Microsecond

/-!
# Statements

Everything that is sent to the database, each statement with the type of its
result.  When a statement is bound, times are cut to what a column holds, and
JSON becomes text.
-/

namespace Stockroom.Database

inductive Statement where
  | begin
  | setLockTimeout (milliseconds : Nat)
  | commit
  | rollback
  | insertInventory (row : InventoryRow)
  | findInventory (product : String)
  | lockInventory (product : String)
  | inventoryAmong (products : List String)
  | updateInventory (row : InventoryRow)
  | deleteInventory (product : String)
  | countLowStock (bound : Option Int32)
  | lowStock (bound : Option Int32) (limit offset : Int)
  | insertReservation (row : ReservationRow)
  | findReservation (id : Uuid)
  | lockReservation (id : Uuid)
  | settleReservation (id : Uuid) (status : String) (updatedAt : Instant)
  | overdueReservations (asOf : Instant) (limit : Nat)
  | insertItems (rows : List ItemRow)
  | itemsOf (reservations : List Uuid)
  | findProcessed (key : String)
  | insertProcessed (row : ProcessedRow)

namespace InventoryRow

def bound (row : InventoryRow) : InventoryRow :=
  { row with
    lastRestock := row.lastRestock.map Instant.inColumn
    createdAt := row.createdAt.inColumn
    updatedAt := row.updatedAt.inColumn }

end InventoryRow

namespace ReservationRow

def bound (row : ReservationRow) : ReservationRow :=
  { row with
    expiresAt := row.expiresAt.inColumn
    createdAt := row.createdAt.inColumn
    updatedAt := row.updatedAt.inColumn }

end ReservationRow

namespace ProcessedRow

def bound (row : ProcessedRow) : ProcessedRow :=
  { row with
    result := row.result.map Json.readBack
    processedAt := row.processedAt.map Instant.inColumn }

end ProcessedRow

namespace Statement

/-- A query for one row has at most one; an insertion into the inventory gives the row back. -/
abbrev Result : Statement → Type
  | insertInventory _ => InventoryRow
  | findInventory _ | lockInventory _ => Option InventoryCells
  | inventoryAmong _ | lowStock _ _ _ => List InventoryCells
  | countLowStock _ => Nat
  | findReservation _ | lockReservation _ => Option ReservationCells
  | overdueReservations _ _ => List ReservationCells
  | itemsOf _ => List ItemCells
  | findProcessed _ => Option ProcessedCells
  | begin | setLockTimeout _ | commit | rollback | updateInventory _ | deleteInventory _
  | insertReservation _ | settleReservation _ _ _ | insertItems _ | insertProcessed _ => Unit

/-- The texts that a statement binds. -/
def texts : Statement → List String
  | insertInventory row | updateInventory row => [row.product]
  | findInventory product | lockInventory product | deleteInventory product => [product]
  | inventoryAmong products => products
  | insertReservation row => [row.orderId, row.status]
  | settleReservation _ status _ => [status]
  | insertItems rows => rows.map (·.product)
  | findProcessed key => [key]
  | insertProcessed row => [row.key]
  | begin | setLockTimeout _ | commit | rollback | countLowStock _ | lowStock _ _ _
  | findReservation _ | lockReservation _ | overdueReservations _ _ | itemsOf _ => []

/-- The JSON values that a statement binds. -/
def documents : Statement → List Json
  | insertProcessed row => row.result.toList
  | _ => []

/-- Whether a statement takes a lock on a row. -/
def isLock : Statement → Bool
  | lockInventory _ | lockReservation _ => true
  | _ => false

/-- Whether a statement changes rows. -/
def isWrite : Statement → Bool
  | insertInventory _ | updateInventory _ | deleteInventory _ | insertReservation _
  | settleReservation _ _ _ | insertItems _ | insertProcessed _ => true
  | _ => false

end Statement

end Stockroom.Database
