import Stockroom.Proofs.Stock.Arithmetic

/-!
# Operations in place

The operations on a record, each as a sequence of checks and assignments.  An
assignment stays when a later check fails, so only the order of checks and
assignments keeps a record from being changed by half.  All checks come first:
in place, an operation either makes of the record what the operation on records
makes of it, or leaves every field alone.
-/

namespace Stockroom

/-- What can be done to the record of a product. -/
inductive RecordOperation where
  | increase (quantity : Quantity)
  | decrease (quantity : Quantity)
  | setAvailable (quantity : Quantity)
  | setThreshold (threshold : Quantity)
  | reserve (quantity : Quantity)
  | release (quantity : Quantity)
  | confirm (quantity : Quantity)
  | adjust (adjustment : Adjustment)
deriving DecidableEq, Repr

/-- What an operation makes of a record at a time. -/
def RecordOperation.apply (operation : RecordOperation) (now : Instant) (record : StockRecord) :
    Except Violation StockRecord :=
  match operation with
  | increase quantity => record.increase quantity now
  | decrease quantity => record.decrease quantity now
  | setAvailable quantity => .ok (record.setAvailable quantity now)
  | setThreshold threshold => .ok (record.setThreshold threshold now)
  | reserve quantity => record.reserve quantity now
  | release quantity => record.release quantity now
  | confirm quantity => record.confirm quantity now
  | adjust adjustment => record.adjust adjustment now

/-- Work on one record, which it may leave half done. -/
abbrev InPlace := ExceptT Violation (StateM StockRecord)

namespace InPlace

variable {α β : Type}

/-- How work on a record ends, and what it leaves of the record. -/
def on (work : InPlace α) (record : StockRecord) : Except Violation α × StockRecord :=
  work.run.run record

/-- Stops if the record as it is by now violates a rule. -/
def check (rule : StockRecord → Except Violation α) : InPlace α := do
  ExceptT.mk (pure (rule (← get)))

def increase (quantity : Quantity) (now : Instant) : InPlace Unit := do
  check fun _ => quantity.ensurePositive
  let available ← check (·.available.add quantity)
  modify ({ · with available := available })
  modify ({ · with lastRestock := some now })
  modify ({ · with updatedAt := now })

def decrease (quantity : Quantity) (now : Instant) : InPlace Unit := do
  check fun _ => quantity.ensurePositive
  check (·.ensureAvailable quantity)
  let available ← check (·.available.sub quantity)
  modify ({ · with available := available })
  modify ({ · with updatedAt := now })

def setAvailable (quantity : Quantity) (now : Instant) : InPlace Unit := do
  modify ({ · with available := quantity })
  modify ({ · with updatedAt := now })

def setThreshold (threshold : Quantity) (now : Instant) : InPlace Unit := do
  modify ({ · with lowStockThreshold := threshold })
  modify ({ · with updatedAt := now })

def reserve (quantity : Quantity) (now : Instant) : InPlace Unit := do
  check fun _ => quantity.ensurePositive
  check (·.ensureAvailable quantity)
  let reserved ← check (·.reserved.add quantity)
  let available ← check (·.available.sub quantity)
  modify ({ · with available := available })
  modify ({ · with reserved := reserved })
  modify ({ · with updatedAt := now })

def release (quantity : Quantity) (now : Instant) : InPlace Unit := do
  check fun _ => quantity.ensurePositive
  check (·.ensureReserved .release quantity)
  let available ← check (·.available.add quantity)
  let reserved ← check (·.reserved.sub quantity)
  modify ({ · with reserved := reserved })
  modify ({ · with available := available })
  modify ({ · with updatedAt := now })

def confirm (quantity : Quantity) (now : Instant) : InPlace Unit := do
  check fun _ => quantity.ensurePositive
  check (·.ensureReserved .confirm quantity)
  let reserved ← check (·.reserved.sub quantity)
  modify ({ · with reserved := reserved })
  modify ({ · with updatedAt := now })

def adjust (adjustment : Adjustment) (now : Instant) : InPlace Unit :=
  match adjustment.kind with
  | .add => increase adjustment.quantity now
  | .subtract => decrease adjustment.quantity now
  | .set => setAvailable adjustment.quantity now

end InPlace

/-- An operation as checks and assignments. -/
def RecordOperation.inPlace (operation : RecordOperation) (now : Instant) : InPlace Unit :=
  match operation with
  | increase quantity => InPlace.increase quantity now
  | decrease quantity => InPlace.decrease quantity now
  | setAvailable quantity => InPlace.setAvailable quantity now
  | setThreshold threshold => InPlace.setThreshold threshold now
  | reserve quantity => InPlace.reserve quantity now
  | release quantity => InPlace.release quantity now
  | confirm quantity => InPlace.confirm quantity now
  | adjust adjustment => InPlace.adjust adjustment now

/-! ## All or nothing -/

namespace InPlace

variable {α : Type}

/-- The end of work that made a whole record or left the record alone. -/
def allOrNothing (record : StockRecord) :
    Except Violation StockRecord → Except Violation Unit × StockRecord
  | .ok updated => (.ok (), updated)
  | .error violation => (.error violation, record)

/-- A check that nothing was assigned before. -/
theorem on_check_bind {record : StockRecord} {rule : StockRecord → Except Violation α}
    {next : α → InPlace Unit} {whole : α → Except Violation StockRecord}
    (hnext : ∀ value, (next value).on record = allOrNothing record (whole value)) :
    (check rule >>= next).on record = allOrNothing record (rule record >>= whole) := by
  change (ExceptT.mk (pure (rule record)) >>= next : InPlace Unit).on record = _
  cases rule record with
  | error violation => rfl
  | ok value => exact hnext value

variable (quantity : Quantity) (now : Instant) (record : StockRecord)

theorem on_increase :
    (increase quantity now).on record = allOrNothing record (record.increase quantity now) :=
  on_check_bind fun _ => on_check_bind fun _ => rfl

theorem on_decrease :
    (decrease quantity now).on record = allOrNothing record (record.decrease quantity now) :=
  on_check_bind fun _ => on_check_bind fun _ => on_check_bind fun _ => rfl

theorem on_reserve :
    (reserve quantity now).on record = allOrNothing record (record.reserve quantity now) :=
  on_check_bind fun _ => on_check_bind fun _ => on_check_bind fun _ => on_check_bind fun _ => rfl

theorem on_release :
    (release quantity now).on record = allOrNothing record (record.release quantity now) :=
  on_check_bind fun _ => on_check_bind fun _ => on_check_bind fun _ => on_check_bind fun _ => rfl

theorem on_confirm :
    (confirm quantity now).on record = allOrNothing record (record.confirm quantity now) :=
  on_check_bind fun _ => on_check_bind fun _ => on_check_bind fun _ => rfl

theorem on_adjust (adjustment : Adjustment) :
    (adjust adjustment now).on record = allOrNothing record (record.adjust adjustment now) := by
  rw [adjust, StockRecord.adjust]
  cases adjustment.kind with
  | add => exact on_increase adjustment.quantity now record
  | subtract => exact on_decrease adjustment.quantity now record
  | set => rfl

end InPlace

/-- In place, an operation makes of a record what it makes of a copy, or nothing. -/
theorem RecordOperation.on_inPlace (operation : RecordOperation) (now : Instant)
    (record : StockRecord) :
    (operation.inPlace now).on record = InPlace.allOrNothing record (operation.apply now record) :=
  match operation with
  | increase quantity => InPlace.on_increase quantity now record
  | decrease quantity => InPlace.on_decrease quantity now record
  | setAvailable _ | setThreshold _ => rfl
  | reserve quantity => InPlace.on_reserve quantity now record
  | release quantity => InPlace.on_release quantity now record
  | confirm quantity => InPlace.on_confirm quantity now record
  | adjust adjustment => InPlace.on_adjust now record adjustment

end Stockroom
