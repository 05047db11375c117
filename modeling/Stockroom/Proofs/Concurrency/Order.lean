import Stockroom.Proofs.Concurrency.Segment

/-!
# Calls in a sequential order

What the store in memory answers, and what it becomes, when the calls of
several processes are carried out one after another.
-/

namespace Stockroom

namespace RowCall

/-- The ids of the reservations that a call may add. -/
def adds : RowCall → Set Uuid
  | reserve reservation => {reservation.id}
  | _ => ∅

/-- A call makes a record at once, or runs a program that keeps to the protocol of locks. -/
theorem start_cases (call : RowCall) :
    (∃ record, call = .create record) ∨
    ∃ program : RowProgram call.Answer,
      (∀ rows, call.start rows = Phase.advance .empty program rows) ∧
      (∀ store, program.run MemoryStore.answerRow store =
        MemoryStore.answer call.toStoreCall store) ∧
      program.Follows (LockStage.protocol call.adds) (fun _ _ => True) .start := by
  cases call with
  | create record => exact .inl ⟨record, rfl⟩
  | find product =>
    refine .inr ⟨UnitOfWork.peekRecord product, fun _ => rfl, fun store => ?_,
      ⟨rfl, fun _ hmem => (List.not_mem_nil hmem).elim⟩, fun _ _ => trivial⟩
    change (Except.ok (MemoryStore.answerRow (.lockProduct product) store).1.toOption, store) =
      (Except.ok (store.inventory.find? product), store)
    rw [MemoryStore.answerRow]
    cases store.inventory.find? product <;> rfl
  | findReservation id =>
    refine .inr ⟨UnitOfWork.peekReservation id, fun _ => rfl, fun store => ?_,
      ⟨rfl, rfl, rfl⟩, fun _ _ => trivial⟩
    change (Except.ok (MemoryStore.answerRow (.lockReservation id) store).1.toOption, store) =
      (Except.ok (store.reservations.find? id), store)
    rw [MemoryStore.answerRow]
    cases store.reservations.find? id <;> rfl
  | adjust product adjustment now =>
    exact .inr ⟨_, fun _ => rfl, fun _ => rfl, (UnitOfWork.change_locks product _
      fun _ _ hedit => (StockRecord.keeps_of_adjust hedit).1).run⟩
  | setThreshold product threshold now =>
    exact .inr ⟨_, fun _ => rfl, fun _ => rfl, (UnitOfWork.change_locks product _
      fun record updated hedit => by cases hedit; rfl).run⟩
  | delete product =>
    exact .inr ⟨_, fun _ => rfl, fun _ => rfl, (UnitOfWork.delete_locks product).run⟩
  | reserve reservation =>
    exact .inr ⟨_, fun _ => rfl, fun _ => rfl, (UnitOfWork.reserve_locks (Set.mem_singleton _)).run⟩
  | resolve id resolution now =>
    exact .inr ⟨_, fun _ => rfl, fun _ => rfl, (UnitOfWork.resolve_locks id resolution now).run⟩

/-- Making a record waits for no lock, and does what the store in memory does. -/
theorem start_create {call : RowCall} {record : StockRecord} (hcall : call = .create record)
    {rows : SharedRows} {store : MemoryStore} (hsound : rows.Sound) (hshows : rows.Shows store) :
    ∃ answer last later, call.start rows = (.returned answer, later) ∧
      MemoryStore.answer call.toStoreCall store = (answer, last) ∧
      later.Shows last ∧ later.Sound ∧ rows.Advanced .empty later := by
  subst hcall
  simp only [start, SharedRows.create, toStoreCall, MemoryStore.answer, MemoryStore.create]
  cases hhandle : rows.inventory.handles.find? record.product with
  | some row =>
    obtain ⟨value, hvalue⟩ := hsound.inventory.filled record.product row hhandle
    have hfound : store.inventory.find? record.product = some value := by
      rw [← hshows.inventory, Rows.find?_of_handle hhandle, hvalue]
    rw [SortedMap.contains, hfound, if_pos Option.isSome_some]
    exact ⟨_, _, _, rfl, rfl, hshows, hsound, .refl _ rows⟩
  | none =>
    have hmissing : store.inventory.find? record.product = none := by
      rw [← hshows.inventory, Rows.find?_of_no_handle hhandle]
    rw [SortedMap.contains, hmissing, if_neg (by simp)]
    refine ⟨_, _, _, rfl, rfl, ⟨fun product => ?_, hshows.reservations⟩,
      ⟨hsound.inventory.add _ record, hsound.reservations⟩, ?_⟩
    · rw [hsound.inventory.find?_add, SortedMap.find?_insert, hshows.inventory]
    · exact .create hhandle

/-- A reservation is absent, but the one that a unit of work has locked is not. -/
structure Absent (id : Uuid) (stage : LockStage) (store : MemoryStore) : Prop where
  keyed : store.Keyed
  absent : store.reservations.find? id = none
  locked : ∀ other, stage.reservation = some other → store.reservations.find? other ≠ none

theorem Absent.insert {id : Uuid} {stage : LockStage} {store : MemoryStore}
    (habsent : Absent id stage store) {reservation : Reservation} (hne : reservation.id ≠ id) :
    Absent id stage
      { store with reservations := store.reservations.insert reservation.id reservation } where
  keyed := habsent.keyed.insertReservation reservation
  absent := by rw [SortedMap.find?_insert, if_neg hne, habsent.absent]
  locked other hother := by
    rw [SortedMap.find?_insert]
    split
    · exact Option.some_ne_none _
    · exact habsent.locked other hother

theorem absent_answerRow {id : Uuid} {added : Set Uuid} {stage : LockStage} {store : MemoryStore}
    {request : RowRequest} (hadded : id ∉ added) (habsent : Absent id stage store)
    (hallowed : (LockStage.protocol added).allows stage request) :
    (LockStage.protocol added).expects stage request (MemoryStore.answerRow request store).1 ∧
      Absent id ((LockStage.protocol added).next stage request
        (MemoryStore.answerRow request store).1) (MemoryStore.answerRow request store).2 := by
  cases request with
  | lockProduct product =>
    rw [MemoryStore.answerRow]
    cases hfound : store.inventory.find? product with
    | none => exact ⟨trivial, habsent.keyed, habsent.absent, habsent.locked⟩
    | some record =>
      exact ⟨habsent.keyed.records product record hfound, habsent.keyed, habsent.absent,
        habsent.locked⟩
  | lockReservation other =>
    rw [MemoryStore.answerRow]
    cases hfound : store.reservations.find? other with
    | none => exact ⟨trivial, habsent.keyed, habsent.absent, habsent.locked⟩
    | some reservation =>
      refine ⟨habsent.keyed.reservations other reservation hfound, habsent.keyed, habsent.absent,
        fun locked hlocked => ?_⟩
      cases hlocked
      exact hfound ▸ Option.some_ne_none reservation
  | writeRecord record =>
    exact ⟨trivial, habsent.keyed.insertRecord record, habsent.absent, habsent.locked⟩
  | removeProduct product =>
    exact ⟨trivial, habsent.keyed.eraseRecord product, habsent.absent, habsent.locked⟩
  | addReservation reservation =>
    have hinserted := habsent.insert (ne_of_mem_of_not_mem hallowed.2 hadded)
    exact ⟨trivial, hinserted.keyed, hinserted.absent, hinserted.locked⟩
  | settleReservation reservation =>
    have hne : reservation.id ≠ id := by
      rintro rfl
      exact habsent.locked reservation.id hallowed.2 habsent.absent
    have hinserted := habsent.insert hne
    exact ⟨trivial, hinserted.keyed, hinserted.absent, hinserted.locked⟩

/-- A call leaves absent every reservation that it does not add. -/
theorem absent_answer {call : RowCall} {store : MemoryStore} (hkeyed : store.Keyed) {id : Uuid}
    (hadds : id ∉ call.adds) (habsent : store.reservations.find? id = none) :
    (MemoryStore.answer call.toStoreCall store).2.reservations.find? id = none := by
  rcases call.start_cases with ⟨record, rfl⟩ | ⟨program, _, hrun, hfollows⟩
  · simp only [toStoreCall, MemoryStore.answer, MemoryStore.create]
    split <;> exact habsent
  · have hstart : Absent id .start store := ⟨hkeyed, habsent, fun _ hlocked => by cases hlocked⟩
    obtain ⟨_, _, hlast⟩ := hfollows.run (fun _ _ _ => absent_answerRow hadds) hstart
    rw [hrun] at hlast
    exact hlast.absent

/-! ## Sequential orders -/

variable {count : Nat} (calls : Fin count → RowCall) (store : MemoryStore)

/-- Every reservation that is added has an id of its own. -/
structure FreshIds : Prop where
  unused : ∀ process, ∀ id ∈ (calls process).adds, store.reservations.find? id = none
  distinct : ∀ one other, one ≠ other → ∀ id ∈ (calls one).adds, id ∉ (calls other).adds

/-- The store after calls in an order. -/
def after (order : List (Fin count)) : MemoryStore :=
  order.foldl (fun store process => (MemoryStore.answer (calls process).toStoreCall store).2) store

/-- What a process is answered when its turn comes in an order. -/
def answerIn (order : List (Fin count)) (process : Fin count) : (calls process).Answer :=
  (MemoryStore.answer (calls process).toStoreCall
    (after calls store (order.takeWhile (· ≠ process)))).1

theorem takeWhile_append_of_mem {order : List (Fin count)} {process : Fin count}
    (hmem : process ∈ order) (more : List (Fin count)) :
    (order ++ more).takeWhile (· ≠ process) = order.takeWhile (· ≠ process) := by
  induction order with
  | nil => simp at hmem
  | cons first rest ih =>
    by_cases hfirst : first = process
    · simp [hfirst]
    · have hrest : process ∈ rest := (List.mem_cons.1 hmem).resolve_left (Ne.symm hfirst)
      rw [List.cons_append, List.takeWhile_cons_of_pos (by simpa using hfirst),
        List.takeWhile_cons_of_pos (by simpa using hfirst), ih hrest]

theorem takeWhile_append_of_not_mem {order : List (Fin count)} {process : Fin count}
    (hmem : process ∉ order) (more : List (Fin count)) :
    (order ++ more).takeWhile (· ≠ process) = order ++ more.takeWhile (· ≠ process) := by
  rw [List.takeWhile_append_of_pos]
  intro other hother
  simpa using ne_of_mem_of_not_mem hother hmem

variable {calls store}

theorem answerIn_append {order : List (Fin count)} {process : Fin count}
    (hmem : process ∈ order) (more : List (Fin count)) :
    answerIn calls store (order ++ more) process = answerIn calls store order process := by
  rw [answerIn, takeWhile_append_of_mem hmem, answerIn]

theorem after_append (order more : List (Fin count)) :
    after calls store (order ++ more) = after calls (after calls store order) more :=
  List.foldl_append

/-- Calls that each leave the store as it is leave it so together. -/
theorem after_of_still {still : List (Fin count)}
    (hstill : ∀ process ∈ still, (MemoryStore.answer (calls process).toStoreCall store).2 = store) :
    after calls store still = store := by
  induction still with
  | nil => rfl
  | cons process rest ih =>
    obtain ⟨hfirst, hrest⟩ := List.forall_mem_cons.1 hstill
    rw [after, List.foldl_cons, hfirst]
    exact ih hrest

theorem keyed_after (calls : Fin count → RowCall) (hkeyed : store.Keyed)
    (order : List (Fin count)) :
    (after calls store order).Keyed := by
  induction order generalizing store with
  | nil => exact hkeyed
  | cons process rest ih => exact ih (hkeyed.answer _)

theorem absent_after (hkeyed : store.Keyed) {id : Uuid}
    (habsent : store.reservations.find? id = none) {order : List (Fin count)}
    (hadds : ∀ process ∈ order, id ∉ (calls process).adds) :
    (after calls store order).reservations.find? id = none := by
  induction order generalizing store with
  | nil => exact habsent
  | cons process rest ih =>
    obtain ⟨hfirst, hrest⟩ := List.forall_mem_cons.1 hadds
    exact ih (hkeyed.answer _) (absent_answer hkeyed hfirst habsent) hrest

end RowCall

end Stockroom
