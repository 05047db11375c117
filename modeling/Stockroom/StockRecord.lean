import Stockroom.Adjustment
import Stockroom.ProductId
import Stockroom.Time.Instant
import Stockroom.Uuid

/-!
# Stock records

The stock held for one product: the units that may still be reserved and the
units that pending reservations hold.  Every operation either has its exact
effect on the two numbers or leaves the record as it was.
-/

namespace Stockroom

structure StockRecord where
  id : Uuid
  product : ProductId
  available : Quantity
  reserved : Quantity
  lowStockThreshold : Quantity
  lastRestock : Option Instant
  createdAt : Instant
  updatedAt : Instant
deriving DecidableEq

namespace StockRecord

/-- The threshold of a record for which none was asked. -/
def defaultThreshold : Quantity := ⟨10, by decide⟩

/-- A new record; initial stock counts as a restock. -/
def create (id : Uuid) (product : ProductId) (initial threshold : Quantity) (now : Instant) :
    StockRecord where
  id := id
  product := product
  available := initial
  reserved := .zero
  lowStockThreshold := threshold
  lastRestock := if initial.isZero then none else some now
  createdAt := now
  updatedAt := now

/-- All units of the product, available or held. -/
def total (record : StockRecord) : Nat :=
  record.available.value + record.reserved.value

def isInStock (record : StockRecord) : Bool :=
  !record.available.isZero

def hasLowStock (record : StockRecord) : Bool :=
  record.isInStock && record.available ≤ record.lowStockThreshold

def canFulfil (record : StockRecord) (requested : Quantity) : Bool :=
  requested ≤ record.available

def ensureAvailable (record : StockRecord) (requested : Quantity) : Except Violation Unit :=
  if record.canFulfil requested then .ok ()
  else .error (.insufficientStock record.available requested)

def ensureReserved (record : StockRecord) (action : Resolution) (requested : Quantity) :
    Except Violation Unit :=
  if record.reserved < requested then .error (.exceedsReserved action record.reserved requested)
  else .ok ()

/-- Adds units to the available stock. -/
def increase (record : StockRecord) (quantity : Quantity) (now : Instant) :
    Except Violation StockRecord := do
  quantity.ensurePositive
  let available ← record.available.add quantity
  return { record with available := available, lastRestock := some now, updatedAt := now }

/-- Takes units out of the available stock without holding them. -/
def decrease (record : StockRecord) (quantity : Quantity) (now : Instant) :
    Except Violation StockRecord := do
  quantity.ensurePositive
  record.ensureAvailable quantity
  let available ← record.available.sub quantity
  return { record with available := available, updatedAt := now }

def setAvailable (record : StockRecord) (quantity : Quantity) (now : Instant) : StockRecord :=
  { record with available := quantity, updatedAt := now }

def setThreshold (record : StockRecord) (threshold : Quantity) (now : Instant) : StockRecord :=
  { record with lowStockThreshold := threshold, updatedAt := now }

/-- Moves available units into the hold of a reservation. -/
def reserve (record : StockRecord) (quantity : Quantity) (now : Instant) :
    Except Violation StockRecord := do
  quantity.ensurePositive
  record.ensureAvailable quantity
  let reserved ← record.reserved.add quantity
  let available ← record.available.sub quantity
  return { record with available := available, reserved := reserved, updatedAt := now }

/-- Gives held units back to the available stock. -/
def release (record : StockRecord) (quantity : Quantity) (now : Instant) :
    Except Violation StockRecord := do
  quantity.ensurePositive
  record.ensureReserved .release quantity
  let available ← record.available.add quantity
  let reserved ← record.reserved.sub quantity
  return { record with available := available, reserved := reserved, updatedAt := now }

/-- Lets held units leave the stock for good. -/
def confirm (record : StockRecord) (quantity : Quantity) (now : Instant) :
    Except Violation StockRecord := do
  quantity.ensurePositive
  record.ensureReserved .confirm quantity
  let reserved ← record.reserved.sub quantity
  return { record with reserved := reserved, updatedAt := now }

def adjust (record : StockRecord) (adjustment : Adjustment) (now : Instant) :
    Except Violation StockRecord :=
  match adjustment.kind with
  | .add => record.increase adjustment.quantity now
  | .subtract => record.decrease adjustment.quantity now
  | .set => .ok (record.setAvailable adjustment.quantity now)

/-- What a resolution does to the stock behind one line of a reservation. -/
def resolve (record : StockRecord) (resolution : Resolution) (quantity : Quantity)
    (now : Instant) : Except Violation StockRecord :=
  match resolution with
  | .confirm => record.confirm quantity now
  | .release | .expire => record.release quantity now

end StockRecord

end Stockroom
