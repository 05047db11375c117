import Stockroom.Proofs.Program
import Stockroom.Proofs.Store.WorkingCopy
import Stockroom.Store.Memory

/-!
# What a unit of work does to the store in memory

Each unit of work as one equation: its answer, and the store after it.  A
failed one leaves the store as it was, since nothing is written before the
last check has passed.
-/

namespace Stockroom.MemoryStore

open Program (goOn goOn_ok goOn_error)

section Steps

variable {α β : Type} (store : MemoryStore)

theorem perform_bind (work : UnitOfWork α) (next : α → UnitOfWork β) :
    store.perform (work >>= next) =
      goOn (store.perform work) fun value after => after.perform (next value) :=
  Program.run_exceptT_bind answerRow work next store

theorem perform_pure (value : α) : store.perform (pure value : UnitOfWork α) = (.ok value, store) :=
  rfl

theorem perform_obey (result : Except Violation α) :
    store.perform (UnitOfWork.obey result) = (result.mapError .violation, store) := rfl

theorem perform_attempt (result : Except StockError α) :
    store.perform (UnitOfWork.attempt result) = (result, store) := rfl

theorem perform_lockProduct (product : ProductId) (next : StockRecord → UnitOfWork β) :
    store.perform (UnitOfWork.request (.lockProduct product) >>= next) =
      match store.inventory.find? product with
      | some record => store.perform (next record)
      | none => (.error (.productMissing product), store) := by
  refine (store.perform_bind _ _).trans ?_
  change goOn (answerRow (.lockProduct product) store) _ = _
  simp only [answerRow]
  cases store.inventory.find? product <;> rfl

theorem perform_lockReservation (id : Uuid) (next : Reservation → UnitOfWork β) :
    store.perform (UnitOfWork.request (.lockReservation id) >>= next) =
      match store.reservations.find? id with
      | some reservation => store.perform (next reservation)
      | none => (.error (.reservationMissing id), store) := by
  refine (store.perform_bind _ _).trans ?_
  change goOn (answerRow (.lockReservation id) store) _ = _
  simp only [answerRow]
  cases store.reservations.find? id <;> rfl

theorem perform_writeRecord (record : StockRecord) (next : Unit → UnitOfWork β) :
    store.perform (UnitOfWork.request (.writeRecord record) >>= next) =
      perform (next ())
        { store with inventory := store.inventory.insert record.product record } := rfl

theorem perform_addReservation (reservation : Reservation) (next : Unit → UnitOfWork β) :
    store.perform (UnitOfWork.request (.addReservation reservation) >>= next) =
      perform (next ())
        { store with reservations := store.reservations.insert reservation.id reservation } := rfl

theorem perform_settleReservation (reservation : Reservation) (next : Unit → UnitOfWork β) :
    store.perform (UnitOfWork.request (.settleReservation reservation) >>= next) =
      perform (next ())
        { store with reservations := store.reservations.insert reservation.id reservation } := rfl

end Steps

/-! ## Locking and writing several records -/

/-- The records of products, as long as each of them has one. -/
def lockAll (store : MemoryStore) (copy : WorkingCopy) :
    List ProductId → Except StockError WorkingCopy
  | [] => .ok copy
  | product :: rest =>
    match store.inventory.find? product with
    | some record => store.lockAll (copy.insert product record) rest
    | none => .error (.productMissing product)

theorem perform_lockProducts (store : MemoryStore) (copy : WorkingCopy)
    (products : List ProductId) :
    store.perform (UnitOfWork.lockProducts copy products) =
      (store.lockAll copy products, store) := by
  induction products generalizing copy with
  | nil => rfl
  | cons product rest ih =>
    rw [UnitOfWork.lockProducts, perform_lockProduct, lockAll]
    cases store.inventory.find? product with
    | none => rfl
    | some record => exact ih _

theorem lockAll_eq_ok {store : MemoryStore} {copy locked : WorkingCopy}
    {products : List ProductId} (hlocked : store.lockAll copy products = .ok locked) :
    (∀ product ∈ products, ∃ record, store.inventory.find? product = some record) ∧
      ∀ product, locked.find? product =
        if product ∈ products then store.inventory.find? product else copy.find? product := by
  induction products generalizing copy with
  | nil => cases hlocked; simp
  | cons first rest ih =>
    cases hfound : store.inventory.find? first with
    | none => simp [lockAll, hfound] at hlocked
    | some record =>
      simp only [lockAll, hfound] at hlocked
      obtain ⟨hpresent, hlookup⟩ := ih hlocked
      refine ⟨List.forall_mem_cons.2 ⟨⟨record, hfound⟩, hpresent⟩, fun product => ?_⟩
      rw [hlookup, SortedMap.find?_insert]
      by_cases hmem : product ∈ rest
      · simp [hmem]
      · by_cases hfirst : first = product
        · simp [← hfirst, hfound]
        · simp [hmem, hfirst, Ne.symm hfirst]

theorem lockAll_of_present {store : MemoryStore} (copy : WorkingCopy) {products : List ProductId}
    (hpresent : ∀ product ∈ products, ∃ record, store.inventory.find? product = some record) :
    ∃ locked, store.lockAll copy products = .ok locked := by
  induction products generalizing copy with
  | nil => exact ⟨copy, rfl⟩
  | cons first rest ih =>
    obtain ⟨⟨record, hfound⟩, hrest⟩ := List.forall_mem_cons.1 hpresent
    simpa only [lockAll, hfound] using ih (copy.insert first record) hrest

/-- The store after its records have been written. -/
def writeAll (store : MemoryStore) (records : List StockRecord) : MemoryStore :=
  { store with
    inventory := records.foldl (fun map record => map.insert record.product record)
      store.inventory }

theorem perform_writeRecords (store : MemoryStore) (records : List StockRecord) :
    store.perform (UnitOfWork.writeRecords records) = (.ok (), store.writeAll records) := by
  induction records generalizing store with
  | nil => rfl
  | cons record rest ih =>
    rw [UnitOfWork.writeRecords, perform_writeRecord]
    exact ih _

theorem find?_writeAll (store : MemoryStore) {records : List StockRecord}
    (hdistinct : (records.map StockRecord.product).Nodup) (product : ProductId) :
    (store.writeAll records).inventory.find? product =
      (records.find? (·.product == product)).or (store.inventory.find? product) := by
  induction records generalizing store with
  | nil => simp [writeAll]
  | cons record rest ih =>
    obtain ⟨hfirst, hrest⟩ := List.nodup_cons.1 hdistinct
    have hstep := ih { store with inventory := store.inventory.insert record.product record } hrest
    refine hstep.trans ?_
    by_cases hproduct : record.product = product
    · have hnone : rest.find? (·.product == product) = none := by
        simp only [List.find?_eq_none, beq_iff_eq]
        exact fun other hother heq =>
          hfirst (hproduct.trans heq.symm ▸ List.mem_map_of_mem hother)
      simp [hproduct, hnone]
    · simp [hproduct]

theorem find?_writeAll_values (store : MemoryStore) {copy : WorkingCopy}
    (hkeyed : copy.Keyed) (product : ProductId) :
    (store.writeAll copy.values).inventory.find? product =
      (copy.find? product).or (store.inventory.find? product) := by
  rw [find?_writeAll store hkeyed.distinct, hkeyed.find?_values]

end Stockroom.MemoryStore
