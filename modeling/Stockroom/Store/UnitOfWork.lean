import Stockroom.Program
import Stockroom.Store.Call
import Stockroom.Store.Hold

/-!
# Units of work

Every call that changes stock locks the rows it needs, works on copies of
them, and writes only when nothing can fail any more.  Rows are locked in one
order: a reservation first, then records by ascending product id.  What
locking and writing a row means is left to the store.
-/

namespace Stockroom

inductive RowRequest where
  | lockProduct (product : ProductId)
  | lockReservation (id : Uuid)
  | writeRecord (record : StockRecord)
  | removeProduct (product : ProductId)
  | addReservation (reservation : Reservation)
  | settleReservation (reservation : Reservation)

namespace RowRequest

/-- Locking a row reads it; writing one yields nothing. -/
abbrev Value : RowRequest → Type
  | lockProduct _ => StockRecord
  | lockReservation _ => Reservation
  | writeRecord _ | removeProduct _ | addReservation _ | settleReservation _ => Unit

abbrev Answer (request : RowRequest) : Type :=
  Except StockError request.Value

end RowRequest

/-- A program over rows that may fail between any two requests. -/
abbrev UnitOfWork := ExceptT StockError (Program RowRequest RowRequest.Answer)

namespace UnitOfWork

def request (request : RowRequest) : UnitOfWork request.Value :=
  ExceptT.mk (Program.query request)

/-- Fails when a rule was violated. -/
def obey {α : Type} (result : Except Violation α) : UnitOfWork α :=
  ExceptT.mk (pure (result.mapError .violation))

def attempt {α : Type} (result : Except StockError α) : UnitOfWork α :=
  ExceptT.mk (pure result)

/-- Locks the records of products, in the order given, into a working copy. -/
def lockProducts (copy : WorkingCopy) : List ProductId → UnitOfWork WorkingCopy
  | [] => return copy
  | product :: rest => do
    let record ← request (.lockProduct product)
    lockProducts (copy.insert product record) rest

def writeRecords : List StockRecord → UnitOfWork Unit
  | [] => return
  | record :: rest => do
    request (.writeRecord record)
    writeRecords rest

/-- Locks the record of one product, changes it and writes it. -/
def change (product : ProductId) (edit : StockRecord → Except Violation StockRecord) :
    UnitOfWork StockRecord := do
  let record ← obey (edit (← request (.lockProduct product)))
  request (.writeRecord record)
  return record

def adjust (product : ProductId) (adjustment : Adjustment) (now : Instant) :
    UnitOfWork StockRecord :=
  change product (fun record => record.adjust adjustment now)

def setThreshold (product : ProductId) (threshold : Quantity) (now : Instant) :
    UnitOfWork StockRecord :=
  change product (fun record => .ok (record.setThreshold threshold now))

/-- Deletes a product, unless some of its stock is held. -/
def delete (product : ProductId) : UnitOfWork Unit := do
  let record ← request (.lockProduct product)
  if Quantity.zero < record.reserved then
    throw (.stillReserved record.product record.reserved)
  request (.removeProduct product)

/-- Holds the stock of every line of a new reservation, or of none. -/
def reserve (reservation : Reservation) : UnitOfWork Reservation := do
  let locked ← lockProducts .empty reservation.lockOrder
  let held ← attempt (locked.hold reservation)
  writeRecords held.values
  request (.addReservation reservation)
  return reservation

/-- Resolves a pending reservation and the stock it holds; a resolved one is left untouched. -/
def resolve (id : Uuid) (resolution : Resolution) (now : Instant) : UnitOfWork Outcome := do
  let reservation ← request (.lockReservation id)
  if reservation.status.isTerminal then
    let (_, settled) ← obey (reservation.resolve resolution now)
    return ⟨.alreadyResolved, settled⟩
  let locked ← lockProducts .empty reservation.lockOrder
  let (transition, settled) ← obey (reservation.resolve resolution now)
  if transition = .alreadyResolved then
    return ⟨.alreadyResolved, settled⟩
  let resolved ← attempt (locked.resolveLines resolution now settled.lines)
  writeRecords resolved.values
  request (.settleReservation settled)
  return ⟨.applied, settled⟩

end UnitOfWork

end Stockroom
