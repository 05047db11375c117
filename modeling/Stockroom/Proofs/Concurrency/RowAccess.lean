import Stockroom.Proofs.SortedMap
import Stockroom.Proofs.Store.LockOrder

/-!
# Locks of the store in memory

How a call of the store in memory goes from row to row.  A unit of work keeps
the locks it has taken until it returns.  A read waits for one row at a time,
copies it and lets it go.  A call that only needs the maps waits for no row.
-/

namespace Stockroom

inductive RowAccess where
  /-- Locks or writes a row. -/
  | row (request : RowRequest)
  /-- Lets go of all locks. -/
  | release
  /-- Lists the products that have rows, in whatever order. -/
  | products
  /-- Lists the reservations, in whatever order. -/
  | reservations
  /-- Is answered by the maps alone. -/
  | outright (call : StoreCall)

namespace RowAccess

abbrev Answer : RowAccess → Type
  | row request => request.Answer
  | release => Unit
  | products => List ProductId
  | reservations => List Uuid
  | outright call => call.Answer

end RowAccess

abbrev AccessProgram := Program RowAccess RowAccess.Answer

namespace AccessProgram

def access (request : RowAccess) : AccessProgram request.Answer :=
  Program.query request

/-- A unit of work, which lets go of its locks when it returns. -/
def unit {α : Type} (work : UnitOfWork α) : AccessProgram (Except StockError α) := do
  let outcome ← Program.interpret (fun request => access (.row request)) work.run
  access .release
  return outcome

/-- Copies the record of a product, if there is one. -/
def peekRecord (product : ProductId) : AccessProgram (Option StockRecord) := do
  let locked ← access (.row (.lockProduct product))
  access .release
  return locked.toOption

/-- Copies a reservation, if it is there. -/
def peekReservation (id : Uuid) : AccessProgram (Option Reservation) := do
  let locked ← access (.row (.lockReservation id))
  access .release
  return locked.toOption

/-- Copies what there is under keys, one after another. -/
def collect {κ ν : Type} (peek : κ → AccessProgram (Option ν)) : List κ → AccessProgram (List ν)
  | [] => return []
  | key :: rest => do
    let found ← peek key
    return found.toList ++ (← collect peek rest)

end AccessProgram

namespace MemoryStore

open AccessProgram

/-- The rows that a call goes to. -/
def accesses : (call : StoreCall) → AccessProgram call.Answer
  | .find product => do return .ok (← peekRecord product)
  | .findMany products => do return .ok (← collect peekRecord products)
  | .lowStock threshold request => do
    let records ← collect peekRecord (← access .products)
    let listing := Sorting.sort listedBefore (records.filter (isListed threshold))
    return .ok (Page.ofListing listing request)
  | .findReservation id => do return .ok (← peekReservation id)
  | .overdue asOf limit => do
    let reservations ← collect peekReservation (← access .reservations)
    let expired := reservations.filter
      (fun reservation => reservation.isPending && reservation.isExpired asOf)
    return .ok ((Sorting.sort (fun left right => !(right.expiresAt < left.expiresAt))
      expired).take limit)
  | call =>
    match call.work? with
    | some work => unit work
    | none => access (.outright call)

def answerAccess : (request : RowAccess) → MemoryStore → request.Answer × MemoryStore
  | .row request, store => answerRow request store
  | .release, store => ((), store)
  | .products, store => (store.inventory.entries.map Prod.fst, store)
  | .reservations, store => (store.reservations.entries.map Prod.fst, store)
  | .outright call, store => answer call store

theorem run_unit {α : Type} (work : UnitOfWork α) (store : MemoryStore) :
    Program.run answerAccess (unit work) store = store.perform work := by
  refine (Program.run_bind _ _ _ _).trans ?_
  rw [Program.run_interpret]
  rfl

theorem run_collect {κ ν : Type} {peek : κ → AccessProgram (Option ν)} {find : κ → Option ν}
    {store : MemoryStore}
    (hpeek : ∀ key, Program.run answerAccess (peek key) store = (find key, store))
    (keys : List κ) :
    Program.run answerAccess (collect peek keys) store = (keys.filterMap find, store) := by
  induction keys with
  | nil => rfl
  | cons key rest ih =>
    refine (Program.run_bind _ _ _ _).trans ?_
    rw [hpeek]
    refine (Program.run_bind _ _ _ _).trans ?_
    rw [ih, List.filterMap_cons]
    cases find key <;> rfl

/-- Going from row to row comes to the same answer as looking at the store as a whole. -/
theorem run_accesses (call : StoreCall) (store : MemoryStore) :
    Program.run answerAccess (accesses call) store = answer call store := by
  have hrecord (product : ProductId) :
      Program.run answerAccess (peekRecord product) store =
        (store.inventory.find? product, store) := by
    change ((answerRow (.lockProduct product) store).1.toOption, store) = _
    rw [answerRow]
    cases store.inventory.find? product <;> rfl
  have hreservation (id : Uuid) :
      Program.run answerAccess (peekReservation id) store =
        (store.reservations.find? id, store) := by
    change ((answerRow (.lockReservation id) store).1.toOption, store) = _
    rw [answerRow]
    cases store.reservations.find? id <;> rfl
  cases call with
  | find product =>
    refine (Program.run_bind _ _ _ _).trans ?_
    rw [hrecord]
    rfl
  | findMany products =>
    refine (Program.run_bind _ _ _ _).trans ?_
    rw [run_collect hrecord]
    rfl
  | lowStock threshold request =>
    let products := store.inventory.entries.map Prod.fst
    refine (Program.run_bind _ (collect peekRecord products) _ store).trans ?_
    rw [run_collect hrecord, SortedMap.filterMap_find?_keys]
    rfl
  | findReservation id =>
    refine (Program.run_bind _ _ _ _).trans ?_
    rw [hreservation]
    rfl
  | overdue asOf limit =>
    let ids := store.reservations.entries.map Prod.fst
    refine (Program.run_bind _ (collect peekReservation ids) _ store).trans ?_
    rw [run_collect hreservation, SortedMap.filterMap_find?_keys]
    rfl
  | adjust _ _ _ | setThreshold _ _ _ | delete _ | reserve _ | resolve _ _ _ =>
    exact run_unit _ store
  | create _ | findProcessed _ | recordProcessed _ => rfl

end MemoryStore

end Stockroom
