import Stockroom.Proofs.Database.ReadBack

/-!
# What a call returns and what is found

A call that writes a record or a reservation returns it, and it can be looked
up right after.  The store in memory finds the very value that it returned.
The database finds it as the columns keep it, and returns it so only where it
was created: every other call returns times that the columns cut.
-/

namespace Stockroom

/-- What a store answers to lookups. -/
structure Lookups where
  find : ProductId → Except StockError (Option StockRecord)
  findReservation : Uuid → Except StockError (Option Reservation)

namespace StoreCall

/-- What a call has written is found as a value of the call. -/
def Finds (lookups : Lookups) : (call : StoreCall) → call.Value → Prop
  | create record, made => lookups.find record.product = .ok (some made)
  | adjust product _ _, updated | setThreshold product _ _, updated =>
    lookups.find product = .ok (some updated)
  | reserve reservation, made => lookups.findReservation reservation.id = .ok (some made)
  | resolve id _ _, outcome => outcome.wasApplied = true →
    lookups.findReservation id = .ok (some outcome.reservation)
  | _, _ => True

/-- A value as the columns keep what is written of it. -/
def inColumns : (call : StoreCall) → call.Value → call.Value
  | create _, record | adjust _ _ _, record | setThreshold _ _ _, record =>
    StockRecord.inRow record
  | reserve _, reservation => Reservation.inRow reservation
  | resolve _ _ _, outcome => Outcome.mk outcome.transition outcome.reservation.inRow
  | _, value => value

theorem wasApplied_inColumns {id : Uuid} {resolution : Resolution} {now : Instant}
    (outcome : Outcome) :
    Outcome.wasApplied (inColumns (resolve id resolution now) outcome) = outcome.wasApplied := by
  simp only [inColumns, Outcome.wasApplied]

/-- Each time that a call writes is one that columns keep, or it is read back. -/
def KeepsTimes : StoreCall → Prop
  | adjust _ _ now | setThreshold _ _ now | resolve _ _ now => now.inColumn = now
  | reserve reservation => reservation.inRow = reservation
  | _ => True

/-- A reservation that is to be added has lines. -/
def HasLines : StoreCall → Prop
  | reserve reservation => reservation.lines ≠ []
  | _ => True

end StoreCall

/-! ## In memory -/

namespace MemoryStore

variable {store : MemoryStore}

def lookups (store : MemoryStore) : Lookups where
  find product := (answer (.find product) store).1
  findReservation id := (answer (.findReservation id) store).1

theorem find?_change (hkeyed : store.Keyed) {product : ProductId}
    {edit : StockRecord → Except Violation StockRecord}
    (hkeeps : ∀ record updated, edit record = .ok updated → updated.product = record.product)
    {updated : StockRecord}
    (hok : (store.perform (UnitOfWork.change product edit)).1 = .ok updated) :
    (store.perform (UnitOfWork.change product edit)).2.inventory.find? product =
      some updated := by
  rcases store.change_cases product edit with
    ⟨error, heq⟩ | ⟨record, edited, hfound, hedited, heq⟩
  · rw [heq] at hok
    cases hok
  · rw [heq] at hok ⊢
    cases hok
    have hproduct : updated.product = product :=
      (hkeeps record updated hedited).trans (hkeyed.records product record hfound)
    exact (SortedMap.find?_insert ..).trans (if_pos hproduct)

theorem find?_reserve {reservation made : Reservation}
    (hok : (store.perform (UnitOfWork.reserve reservation)).1 = .ok made) :
    (store.perform (UnitOfWork.reserve reservation)).2.reservations.find? reservation.id =
      some made := by
  rcases store.reserve_writes reservation with ⟨error, heq⟩ | ⟨_, held, _, _, heq⟩
  · rw [heq] at hok
    cases hok
  · rw [heq] at hok ⊢
    cases hok
    exact (SortedMap.find?_insert ..).trans (if_pos rfl)

theorem find?_resolve (hkeyed : store.Keyed) {id : Uuid} {resolution : Resolution}
    {now : Instant} {outcome : Outcome}
    (hok : (store.perform (UnitOfWork.resolve id resolution now)).1 = .ok outcome)
    (happlied : outcome.wasApplied = true) :
    (store.perform (UnitOfWork.resolve id resolution now)).2.reservations.find? id =
      some outcome.reservation := by
  rcases store.resolve_writes id resolution now with
    ⟨error, heq⟩ | ⟨reservation, _, _, heq⟩ | ⟨reservation, _, _, hfound, _, _, _, _, heq⟩
  · rw [heq] at hok
    cases hok
  · rw [heq] at hok
    cases hok
    cases happlied
  · rw [heq] at hok ⊢
    cases hok
    exact (SortedMap.find?_insert ..).trans (if_pos (hkeyed.reservations id reservation hfound))

/-- The store in memory finds what it returned. -/
theorem finds_answer (hkeyed : store.Keyed) {call : StoreCall} {value : call.Value}
    (hok : (answer call store).1 = .ok value) : call.Finds (answer call store).2.lookups value := by
  cases call with
  | create record =>
    simp only [answer, create] at hok ⊢
    split at hok
    · cases hok
    · rename_i hfree
      cases hok
      rw [if_neg hfree]
      exact congrArg _ ((SortedMap.find?_insert ..).trans (if_pos rfl))
  | adjust product adjustment now =>
    exact congrArg _ (find?_change hkeyed
      (fun _ _ hedited => (StockRecord.keeps_of_adjust hedited).1) hok)
  | setThreshold product threshold now =>
    refine congrArg _ (find?_change hkeyed (fun record updated hedited => ?_) hok)
    cases hedited
    rfl
  | reserve reservation => exact congrArg _ (find?_reserve hok)
  | resolve id resolution now =>
    exact fun happlied => congrArg _ (find?_resolve hkeyed hok happlied)
  | _ => exact trivial

end MemoryStore

/-! ## In a database -/

/-- A call of a store, when it is made, and what happens to each of its statements. -/
structure Attempt where
  call : StoreCall
  now : Instant
  interference : Nat → Interference

namespace Database

variable {database : Database}

def attempt (lockTimeout : Nat) (attempt : Attempt) (database : Database) :
    attempt.call.Answer × Database :=
  let ended := Session.perform attempt.interference attempt.now
    (Database.call lockTimeout attempt.call) ⟨database, []⟩
  (ended.1, ended.2.database)

/-- What lookups are answered when nothing happens to their statements. -/
def lookups (lockTimeout : Nat) (now : Instant) (database : Database) : Lookups where
  find product := (perform now (Database.call lockTimeout (.find product)) database).1
  findReservation id := (perform now (Database.call lockTimeout (.findReservation id)) database).1

/-- The database after attempts. -/
def afterAll (lockTimeout : Nat) (attempts : List Attempt) (database : Database) : Database :=
  attempts.foldl (fun database attempt => (database.attempt lockTimeout attempt).2) database

/-- A call leaves tables that can be read.  If it succeeded, what it has written is found as the
columns keep it. -/
theorem Rests.attempt (hrests : database.Rests) (lockTimeout : Nat) (attempt : Attempt)
    (hlines : attempt.call.HasLines) (later : Instant) :
    let ended := database.attempt lockTimeout attempt
    ended.2.Rests ∧ ∀ value, ended.1 = .ok value →
      attempt.call.Finds (ended.2.lookups lockTimeout later) (attempt.call.inColumns value) ∧
        (attempt.call.KeepsTimes → attempt.call.inColumns value = value) := by
  obtain ⟨call, now, interference⟩ := attempt
  obtain ⟨contents, hreadable, hidle⟩ := id hrests
  cases call with
  | create record =>
    refine ⟨hrests.of_alone (create_alone record) interference now, fun made hok => ?_⟩
    obtain ⟨rfl, hreads⟩ := secures_create hreadable record ⟨database, []⟩ made _ hidle
      (Prod.ext hok rfl)
    -- What was created is returned as it was read back, and columns cut no further.
    refine ⟨?_, fun _ => record.inRow_inRow⟩
    have hfound := perform_find hreads later
    rw [← record.inRow_inRow] at hfound
    exact hfound
  | adjust product adjustment time =>
    obtain ⟨hafter, hended⟩ := @change_leaves interference now contents database lockTimeout hidle
      hreadable product _ time fun _ _ => EditedAt.of_adjust
    refine ⟨hafter, fun updated hok => ?_⟩
    obtain ⟨hkept, hreads⟩ := hended updated hok
    exact ⟨perform_find hreads later, hkept⟩
  | setThreshold product threshold time =>
    have hedit (record updated : StockRecord)
        (hedited : Except.ok (record.setThreshold threshold time) =
          (.ok updated : Except Violation StockRecord)) : EditedAt time updated record := by
      cases hedited
      exact .of_setThreshold record threshold time
    obtain ⟨hafter, hended⟩ := @change_leaves interference now contents database lockTimeout hidle
      hreadable product _ time hedit
    refine ⟨hafter, fun updated hok => ?_⟩
    obtain ⟨hkept, hreads⟩ := hended updated hok
    exact ⟨perform_find hreads later, hkept⟩
  | delete product =>
    exact ⟨delete_leaves lockTimeout hidle hreadable product, fun _ _ => ⟨trivial, fun _ => rfl⟩⟩
  | reserve reservation =>
    obtain ⟨hafter, hended⟩ := transact_leaves lockTimeout hidle hreadable
      (UnitOfWork.reserve_ordered reservation) (secures_reserve hreadable hlines)
    refine ⟨hafter, fun made hok => ?_⟩
    obtain ⟨hmade, hreads⟩ := hended made hok
    subst made
    exact ⟨perform_findReservation hreads later, id⟩
  | resolve id resolution time =>
    obtain ⟨hafter, hended⟩ := transact_leaves lockTimeout hidle hreadable
      (UnitOfWork.resolve_ordered id resolution time)
      (secures_resolve hreadable id resolution time)
    refine ⟨hafter, fun outcome hok => ?_⟩
    obtain ⟨hkept, hreads⟩ := hended outcome hok
    refine ⟨fun happlied => ?_, fun htime => ?_⟩
    · rw [StoreCall.wasApplied_inColumns] at happlied
      obtain ⟨tables, hstands, hread⟩ := hreads
      have hfound := hread.imp fun _ hfound => hfound happlied
      exact perform_findReservation ⟨tables, hstands, hfound⟩ later
    · change Outcome.mk outcome.transition outcome.reservation.inRow = outcome
      rw [hkept htime]
  | find _ | findMany _ | lowStock _ _ | findReservation _ | overdue _ _ | findProcessed _
  | recordProcessed _ =>
    exact ⟨hrests.of_alone (call_alone lockTimeout rfl) interference now,
      fun _ _ => ⟨trivial, fun _ => rfl⟩⟩

theorem Rests.afterAll (hrests : database.Rests) (lockTimeout : Nat) {attempts : List Attempt}
    (hlines : ∀ attempt ∈ attempts, attempt.call.HasLines) :
    (database.afterAll lockTimeout attempts).Rests := by
  induction attempts generalizing database with
  | nil => exact hrests
  | cons attempt rest ih =>
    obtain ⟨hfirst, hrest⟩ := List.forall_mem_cons.1 hlines
    exact ih (hrests.attempt lockTimeout attempt hfirst .epoch).1 hrest

end Database

/-! ## In both stores -/

/-- What a call has written is found.  After any calls the store in memory finds the value that it
returned.  After any calls, whatever happened to their statements, the database finds the value as
its columns keep it, and that is the value that it returned if it was created, or if each time
that was written is one that columns keep. -/
theorem returned_is_found (call : StoreCall) :
    (∀ (calls : List StoreCall) (value : call.Value),
      let ended := MemoryStore.answer call (MemoryStore.empty.afterAll calls)
      ended.1 = .ok value → call.Finds ended.2.lookups value) ∧
    ∀ (lockTimeout : Nat) (attempts : List Attempt) (now later : Instant)
      (interference : Nat → Interference) (value : call.Value),
      let database := Database.empty.afterAll lockTimeout attempts
      let ended := database.attempt lockTimeout ⟨call, now, interference⟩
      (∀ attempt ∈ attempts, attempt.call.HasLines) → call.HasLines → ended.1 = .ok value →
        call.Finds (ended.2.lookups lockTimeout later) (call.inColumns value) ∧
          (call.KeepsTimes → call.inColumns value = value) := by
  constructor
  · intro calls value ended hok
    exact MemoryStore.finds_answer (MemoryStore.Keyed.empty.afterAll calls) hok
  · intro lockTimeout attempts now later interference value database ended hlines hcall hok
    have hrests : database.Rests := Database.rests_empty.afterAll lockTimeout hlines
    exact (hrests.attempt lockTimeout ⟨call, now, interference⟩ hcall later).2 value hok

/-- A cup that is added half a microsecond late is found with the time cut off, and an order of it
is found as it was returned. -/
theorem returned_is_found_of_one_cup :
    let cup : ProductId := ⟨"cup", by decide⟩
    let late : Instant := ⟨1704067200, 500, by decide⟩
    let create : StoreCall := .create (.create (Uuid.ofNat 1) cup .one .zero .epoch)
    let adjust : StoreCall := .adjust cup ⟨.add, .one⟩ late
    let reserve : StoreCall := .reserve
      ⟨Uuid.ofNat 2, "order", [⟨cup, .one⟩], .pending, .epoch, .epoch, .epoch⟩
    let plainly (call : StoreCall) : Attempt := ⟨call, .epoch, fun _ => .none⟩
    let stored := Database.empty.afterAll 5000 [plainly create]
    let adjusted := stored.attempt 5000 (plainly adjust)
    let reserved := stored.attempt 5000 (plainly reserve)
    let inMemory := MemoryStore.answer adjust (MemoryStore.empty.afterAll [create])
    (∃ updated, inMemory.1 = .ok updated ∧ inMemory.2.lookups.find cup = .ok (some updated)) ∧
    (∃ updated, adjusted.1 = .ok updated ∧
      (adjusted.2.lookups 5000 .epoch).find cup = .ok (some (StockRecord.inRow updated))) ∧
    (∃ made, reserved.1 = .ok made ∧
      (reserved.2.lookups 5000 .epoch).findReservation (Uuid.ofNat 2) = .ok (some made)) := by
  intro cup late create adjust reserve plainly stored adjusted reserved inMemory
  have hlines : ∀ attempt ∈ [plainly create], attempt.call.HasLines :=
    List.forall_mem_singleton.2 trivial
  have hmemory : inMemory.1.toOption.isSome = true := by decide +kernel
  have hadjusted : adjusted.1.toOption.isSome = true := by decide +kernel
  have hreserved : reserved.1.toOption.isSome = true := by decide +kernel
  obtain ⟨kept, hkept⟩ := Option.isSome_iff_exists.1 hmemory
  obtain ⟨updated, hupdated⟩ := Option.isSome_iff_exists.1 hadjusted
  obtain ⟨made, hmade⟩ := Option.isSome_iff_exists.1 hreserved
  rw [toOption_eq_some_iff] at hkept hupdated hmade
  have hfound : (adjusted.2.lookups 5000 .epoch).find cup =
      .ok (some (StockRecord.inRow updated)) :=
    ((returned_is_found adjust).2 5000 [plainly create] .epoch .epoch _ updated hlines trivial
      hupdated).1
  obtain ⟨hheld, hsame⟩ := (returned_is_found reserve).2 5000 [plainly create] .epoch .epoch _ made
    hlines (List.cons_ne_nil _ _) hmade
  have hkeeps : Instant.epoch.inColumn = .epoch := by decide +kernel
  rw [hsame (Reservation.inRow_eq_iff.2 ⟨hkeeps, hkeeps, hkeeps⟩)] at hheld
  exact ⟨⟨kept, hkept, (returned_is_found adjust).1 [create] kept hkept⟩,
    ⟨updated, hupdated, hfound⟩, made, hmade, hheld⟩

/-- An added cup is returned with the time at which it was added, and found with the time cut
off. -/
theorem returned_is_cut :
    let cup : ProductId := ⟨"cup", by decide⟩
    let full : Instant := ⟨1704067200, 0, by decide⟩
    let late : Instant := ⟨1704067200, 500, by decide⟩
    let create : StoreCall := .create (.create (Uuid.ofNat 1) cup .one .zero .epoch)
    let adjust : StoreCall := .adjust cup ⟨.add, .one⟩ late
    let plainly (call : StoreCall) : Attempt := ⟨call, .epoch, fun _ => .none⟩
    let adjusted := (Database.empty.afterAll 5000 [plainly create]).attempt 5000 (plainly adjust)
    let lookups := adjusted.2.lookups 5000 .epoch
    ∃ updated found, adjusted.1 = .ok updated ∧ lookups.find cup = .ok (some found) ∧
      updated.updatedAt = late ∧ found.updatedAt = full ∧ ¬ adjust.Finds lookups updated := by
  intro cup full late create adjust plainly adjusted lookups
  have hreturned : adjusted.1.toOption.map StockRecord.updatedAt = some late := by decide +kernel
  have hread : (lookups.find cup).toOption.join.map StockRecord.updatedAt = some full := by
    decide +kernel
  obtain ⟨updated, hupdated, htime⟩ := Option.map_eq_some_iff.1 hreturned
  obtain ⟨found, hjoined, hcut⟩ := Option.map_eq_some_iff.1 hread
  have hfound := toOption_eq_some_iff.1 (Option.join_eq_some_iff.1 hjoined)
  refine ⟨updated, found, toOption_eq_some_iff.1 hupdated, hfound, htime, hcut, fun hsame => ?_⟩
  have hsame : lookups.find cup = .ok (some updated) := hsame
  obtain rfl : found = updated := Option.some.inj (Except.ok.inj (hfound.symm.trans hsame))
  exact absurd (hcut.symm.trans htime) (by decide)

end Stockroom
