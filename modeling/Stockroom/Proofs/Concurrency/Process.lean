import Stockroom.Proofs.Concurrency.Rows

/-!
# Calls as processes

A call of the store in memory runs undisturbed until it has to wait for the
lock of a row.  Several calls run concurrently when their segments between
such waits are interleaved.  A process keeps its locks until it returns.
-/

namespace Stockroom

/-- The rows of a store that is shared by processes. -/
structure SharedRows where
  inventory : Rows ProductId StockRecord
  reservations : Rows Uuid Reservation

/-- The rows whose locks a process holds. -/
structure Guards where
  records : SortedMap ProductId Nat
  reservation : Option Nat

namespace Guards

def empty : Guards := ⟨.empty, none⟩

def addRecord (guards : Guards) (product : ProductId) (row : Nat) : Guards :=
  { guards with records := guards.records.insert product row }

def addReservation (guards : Guards) (row : Nat) : Guards :=
  { guards with reservation := some row }

end Guards

namespace SharedRows

def ofStore (store : MemoryStore) : SharedRows :=
  ⟨.ofMap store.inventory, .ofMap store.reservations⟩

/-- Writes a record into the locked row of its product. -/
def writeRecord (rows : SharedRows) (guards : Guards) (record : StockRecord) : SharedRows :=
  match guards.records.find? record.product with
  | some row => { rows with inventory := rows.inventory.write row record }
  | none => rows

/-- Empties the locked row of a product and takes it away from the product. -/
def removeProduct (rows : SharedRows) (guards : Guards) (product : ProductId) : SharedRows :=
  match guards.records.find? product with
  | some row => { rows with inventory := (rows.inventory.clear row).drop product }
  | none => { rows with inventory := rows.inventory.drop product }

def addReservation (rows : SharedRows) (reservation : Reservation) : SharedRows :=
  { rows with reservations := rows.reservations.add reservation.id reservation }

/-- Writes a reservation into the locked row. -/
def settleReservation (rows : SharedRows) (guards : Guards) (reservation : Reservation) :
    SharedRows :=
  match guards.reservation with
  | some row => { rows with reservations := rows.reservations.write row reservation }
  | none => rows

/-- Makes the row of a new record, without waiting for a lock. -/
def create (rows : SharedRows) (record : StockRecord) :
    Except StockError StockRecord × SharedRows :=
  match rows.inventory.handles.find? record.product with
  | some _ => (.error (.productExists record.product), rows)
  | none => (.ok record, { rows with inventory := rows.inventory.add record.product record })

end SharedRows

abbrev RowProgram (α : Type) := Program RowRequest RowRequest.Answer α

/-- How far a process has come.  A process that waits has found the row it waits for and goes
on, once it has the lock, with what the row contains then. -/
inductive Phase (α : Type) where
  | idle
  | awaitsRecord (guards : Guards) (product : ProductId) (row : Nat)
      (resume : Except StockError StockRecord → RowProgram α)
  | awaitsReservation (guards : Guards) (id : Uuid) (row : Nat)
      (resume : Except StockError Reservation → RowProgram α)
  | returned (answer : α)

namespace Phase

variable {α : Type}

def guards : Phase α → Guards
  | .awaitsRecord guards _ _ _ | .awaitsReservation guards _ _ _ => guards
  | .idle | .returned _ => .empty

def answer? : Phase α → Option α
  | .returned answer => some answer
  | _ => none

/-- Runs a program, with the locks it has, until it has to wait for another one. -/
def advance (guards : Guards) : RowProgram α → SharedRows → Phase α × SharedRows
  | .done answer, rows => (.returned answer, rows)
  | .ask (.lockProduct product) resume, rows =>
    match rows.inventory.handles.find? product with
    | some row => (.awaitsRecord guards product row resume, rows)
    | none => advance guards (resume (.error (.productMissing product))) rows
  | .ask (.lockReservation id) resume, rows =>
    match rows.reservations.handles.find? id with
    | some row => (.awaitsReservation guards id row resume, rows)
    | none => advance guards (resume (.error (.reservationMissing id))) rows
  | .ask (.writeRecord record) resume, rows =>
    advance guards (resume (.ok ())) (rows.writeRecord guards record)
  | .ask (.removeProduct product) resume, rows =>
    advance guards (resume (.ok ())) (rows.removeProduct guards product)
  | .ask (.addReservation reservation) resume, rows =>
    advance guards (resume (.ok ())) (rows.addReservation reservation)
  | .ask (.settleReservation reservation) resume, rows =>
    advance guards (resume (.ok ())) (rows.settleReservation guards reservation)

/-- Goes on with the lock of a record.  A row that was emptied meanwhile counts as missing. -/
def grantRecord (guards : Guards) (product : ProductId) (row : Nat)
    (resume : Except StockError StockRecord → RowProgram α) (rows : SharedRows) :
    Phase α × SharedRows :=
  match rows.inventory.contents row with
  | some record => advance (guards.addRecord product row) (resume (.ok record)) rows
  | none => advance guards (resume (.error (.productMissing product))) rows

def grantReservation (guards : Guards) (id : Uuid) (row : Nat)
    (resume : Except StockError Reservation → RowProgram α) (rows : SharedRows) :
    Phase α × SharedRows :=
  match rows.reservations.contents row with
  | some reservation => advance (guards.addReservation row) (resume (.ok reservation)) rows
  | none => advance guards (resume (.error (.reservationMissing id))) rows

end Phase

namespace UnitOfWork

/-- Waits for the lock of a record only to read it. -/
def peekRecord (product : ProductId) : RowProgram (Except StockError (Option StockRecord)) :=
  .ask (.lockProduct product) fun locked => .done (.ok (Except.toOption locked))

/-- Waits for the lock of a reservation only to read it. -/
def peekReservation (id : Uuid) : RowProgram (Except StockError (Option Reservation)) :=
  .ask (.lockReservation id) fun locked => .done (.ok (Except.toOption locked))

end UnitOfWork

/-- The calls of the store that concern single rows. -/
inductive RowCall where
  | create (record : StockRecord)
  | find (product : ProductId)
  | adjust (product : ProductId) (adjustment : Adjustment) (now : Instant)
  | setThreshold (product : ProductId) (threshold : Quantity) (now : Instant)
  | delete (product : ProductId)
  | reserve (reservation : Reservation)
  | resolve (id : Uuid) (resolution : Resolution) (now : Instant)
  | findReservation (id : Uuid)

namespace RowCall

def toStoreCall : RowCall → StoreCall
  | create record => .create record
  | find product => .find product
  | adjust product adjustment now => .adjust product adjustment now
  | setThreshold product threshold now => .setThreshold product threshold now
  | delete product => .delete product
  | reserve reservation => .reserve reservation
  | resolve id resolution now => .resolve id resolution now
  | findReservation id => .findReservation id

abbrev Answer (call : RowCall) : Type :=
  call.toStoreCall.Answer

/-- The first segment of a call. -/
def start : (call : RowCall) → SharedRows → Phase call.Answer × SharedRows
  | create record, rows => (.returned (rows.create record).1, (rows.create record).2)
  | find product, rows => Phase.advance .empty (UnitOfWork.peekRecord product) rows
  | adjust product adjustment now, rows =>
    Phase.advance .empty (UnitOfWork.adjust product adjustment now).run rows
  | setThreshold product threshold now, rows =>
    Phase.advance .empty (UnitOfWork.setThreshold product threshold now).run rows
  | delete product, rows => Phase.advance .empty (UnitOfWork.delete product).run rows
  | reserve reservation, rows => Phase.advance .empty (UnitOfWork.reserve reservation).run rows
  | resolve id resolution now, rows =>
    Phase.advance .empty (UnitOfWork.resolve id resolution now).run rows
  | findReservation id, rows => Phase.advance .empty (UnitOfWork.peekReservation id) rows

end RowCall

/-- Processes that share the rows of one store, each with its own call. -/
structure Processes {count : Nat} (calls : Fin count → RowCall) where
  rows : SharedRows
  phase : (process : Fin count) → Phase (calls process).Answer

namespace Processes

variable {count : Nat} {calls : Fin count → RowCall}

def start (calls : Fin count → RowCall) (store : MemoryStore) : Processes calls :=
  ⟨.ofStore store, fun _ => .idle⟩

def put (system : Processes calls) (process : Fin count)
    (result : Phase (calls process).Answer × SharedRows) : Processes calls :=
  ⟨result.2, Function.update system.phase process result.1⟩

/-- One segment of a process.  A process whose row is locked goes on waiting. -/
def step (system : Processes calls) (process : Fin count) : Processes calls :=
  match system.phase process with
  | .idle => system.put process ((calls process).start system.rows)
  | .awaitsRecord guards product row resume =>
    if ∃ other, row ∈ (system.phase other).guards.records.values then system
    else system.put process (Phase.grantRecord guards product row resume system.rows)
  | .awaitsReservation guards id row resume =>
    if ∃ other, (system.phase other).guards.reservation = some row then system
    else system.put process (Phase.grantReservation guards id row resume system.rows)
  | .returned _ => system

/-- The system after its processes have taken steps in some order. -/
def run (system : Processes calls) (schedule : List (Fin count)) : Processes calls :=
  schedule.foldl step system

end Processes

end Stockroom
