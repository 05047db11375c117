import Stockroom.Proofs.Concurrency.Order

/-!
# Concurrent calls have a sequential order

A call takes its place in the order when it returns, or when the row that it
waits for is removed: from then on its answer is settled.  Calls that still
wait can be placed later, since nobody else writes the rows they have locked.
-/

namespace Stockroom

open RowCall (after answerIn)

/-- A store holds what a process has read from the rows it has locked. -/
structure Guards.Agrees (guards : Guards) (rows : SharedRows) (stage : LockStage)
    (store : MemoryStore) : Prop where
  records : ∀ product row, guards.records.find? product = some row →
    store.inventory.find? product = rows.inventory.contents row
  reservation : ∀ id row, stage.reservation = some id → guards.reservation = some row →
    store.reservations.find? id = rows.reservations.contents row

/-- What is left of a call does the same as the whole call, on every store that holds what the
call has read. -/
structure Tracked (call : RowCall) (rows : SharedRows) (guards : Guards) (stage : LockStage)
    (rest : RowProgram call.Answer) : Prop where
  cover : guards.Cover rows stage
  follows : rest.Follows (LockStage.protocol call.adds) (fun _ _ => True) stage
  same : ∀ store, guards.Agrees rows stage store →
    MemoryStore.answer call.toStoreCall store = rest.run MemoryStore.answerRow store

/-- A call that has no place in the order yet. -/
inductive Pending (call : RowCall) (rows : SharedRows) : Phase call.Answer → Prop
  | idle : Pending call rows .idle
  | record {guards : Guards} {product : ProductId} {row : Nat}
      {resume : Except StockError StockRecord → RowProgram call.Answer} {stage : LockStage}
      (hhandle : rows.inventory.handles.find? product = some row)
      (htracked : Tracked call rows guards stage (.ask (.lockProduct product) resume)) :
      Pending call rows (.awaitsRecord guards product row resume)
  | reservation {guards : Guards} {id : Uuid} {row : Nat}
      {resume : Except StockError Reservation → RowProgram call.Answer} {stage : LockStage}
      (hhandle : rows.reservations.handles.find? id = some row)
      (htracked : Tracked call rows guards stage (.ask (.lockReservation id) resume)) :
      Pending call rows (.awaitsReservation guards id row resume)

/-- A call that has returned its answer, or can only return it. -/
inductive Settled {α : Type} (rows : SharedRows) (answer : α) : Phase α → Prop
  | returned : Settled rows answer (.returned answer)
  | emptied {guards : Guards} {product : ProductId} {row : Nat}
      {resume : Except StockError StockRecord → RowProgram α}
      (hbelow : row < rows.inventory.made) (hempty : rows.inventory.contents row = none)
      (hdone : resume (.error (.productMissing product)) = .done answer) :
      Settled rows answer (.awaitsRecord guards product row resume)

/-- No row is locked by both. -/
structure Guards.Apart (guards other : Guards) : Prop where
  records : ∀ row ∈ guards.records.values, row ∉ other.records.values
  reservation : ∀ row, guards.reservation = some row → other.reservation ≠ some row

namespace Guards

variable {guards other : Guards}

theorem Apart.symm (hapart : guards.Apart other) : other.Apart guards where
  records row hrow hheld := hapart.records row hheld hrow
  reservation row hrow hheld := hapart.reservation row hheld hrow

theorem Apart.empty (guards : Guards) : Guards.empty.Apart guards :=
  ⟨fun _ hrow => (List.not_mem_nil hrow).elim, nofun⟩

theorem Apart.addRecord (hapart : guards.Apart other) (product : ProductId) {row : Nat}
    (hfree : row ∉ other.records.values) : (guards.addRecord product row).Apart other where
  records found hfound := by
    obtain ⟨key, hkey⟩ := SortedMap.mem_values_iff.1 hfound
    rw [Guards.addRecord, SortedMap.find?_insert] at hkey
    split at hkey
    · rwa [← Option.some.inj hkey]
    · exact hapart.records found (SortedMap.mem_values_iff.2 ⟨key, hkey⟩)
  reservation := hapart.reservation

theorem Apart.addReservation (hapart : guards.Apart other) {row : Nat}
    (hfree : other.reservation ≠ some row) : (guards.addReservation row).Apart other where
  records := hapart.records
  reservation _ hfound := Option.some.inj hfound ▸ hfree

end Guards

/-- The calls that are settled have taken place one after another in an order. -/
structure Linearized {count : Nat} (calls : Fin count → RowCall) (store : MemoryStore)
    (system : Processes calls) (order : List (Fin count)) : Prop where
  nodup : order.Nodup
  shows : system.rows.Shows (after calls store order)
  sound : system.rows.Sound
  apart : ∀ one other, one ≠ other → (system.phase one).guards.Apart (system.phase other).guards
  settled : ∀ process ∈ order,
    Settled system.rows (answerIn calls store order process) (system.phase process)
  pending : ∀ process ∉ order, Pending (calls process) system.rows (system.phase process)

namespace Tracked

variable {call : RowCall} {rows later : SharedRows} {guards others : Guards} {stage : LockStage}
  {rest : RowProgram call.Answer}

/-- The steps of processes with other locks do not matter to a call. -/
theorem frame (htracked : Tracked call rows guards stage rest) (hsound : rows.Sound)
    (hadvanced : rows.Advanced others later) (hapart : guards.Apart others) :
    Tracked call later guards stage rest where
  cover := {
    present := fun product row hguard => hadvanced.inventory.handles product row
      (htracked.cover.present product row hguard)
      (hapart.records row (SortedMap.mem_values_iff.2 ⟨product, hguard⟩))
    locked := htracked.cover.locked
    reservation := fun id hid =>
      let ⟨row, hguard, hhandle⟩ := htracked.cover.reservation id hid
      ⟨row, hguard, hadvanced.kept id row hhandle⟩ }
  follows := htracked.follows
  same store hagrees := by
    refine htracked.same store ⟨fun product row hguard => ?_, fun id row hid hguard => ?_⟩
    · have hhandle := htracked.cover.present product row hguard
      rw [hagrees.records product row hguard]
      exact hadvanced.inventory.contents row (hsound.inventory.below product row hhandle)
        (hapart.records row (SortedMap.mem_values_iff.2 ⟨product, hguard⟩))
    · obtain ⟨locked, hlocked, hhandle⟩ := htracked.cover.reservation id hid
      obtain rfl := Option.some.inj (hguard.symm.trans hlocked)
      rw [hagrees.reservation id row hid hguard]
      exact hadvanced.reservations.contents row (hsound.reservations.below id row hhandle)
        (hapart.reservation row hguard)

/-- What a store shows of the locked rows is what was read from them. -/
theorem answer_eq (htracked : Tracked call rows guards stage rest) {store : MemoryStore}
    (hshows : rows.Shows store) :
    MemoryStore.answer call.toStoreCall store = rest.run MemoryStore.answerRow store := by
  refine htracked.same store ⟨fun product row hguard => ?_, fun id row hid hguard => ?_⟩
  · rw [← hshows.inventory, Rows.find?_of_handle (htracked.cover.present product row hguard)]
  · obtain ⟨locked, hlocked, hhandle⟩ := htracked.cover.reservation id hid
    obtain rfl := Option.some.inj (hguard.symm.trans hlocked)
    rw [← hshows.reservations, Rows.find?_of_handle hhandle]

/-- A call that waits for a removed row fails as it would without the row, and changes nothing. -/
theorem answer_of_missing {product : ProductId}
    {resume : Except StockError StockRecord → RowProgram call.Answer}
    (htracked : Tracked call rows guards stage (.ask (.lockProduct product) resume))
    {store : MemoryStore} (hshows : rows.Shows store)
    (hmissing : rows.inventory.handles.find? product = none) :
    ∃ answer, resume (.error (.productMissing product)) = .done answer ∧
      MemoryStore.answer call.toStoreCall store = (answer, store) := by
  obtain ⟨answer, hdone⟩ := LockStage.eq_done_of_over
    (htracked.follows.2 (.error (.productMissing product)) trivial) rfl
  refine ⟨answer, hdone, ?_⟩
  have habsent : store.inventory.find? product = none := by
    rw [← hshows.inventory, Rows.find?_of_no_handle hmissing]
  rw [htracked.answer_eq hshows, Program.run_ask, MemoryStore.answerRow, habsent, hdone,
    Program.run_done]

theorem grantRecord {product : ProductId} {row : Nat} {record : StockRecord}
    {resume : Except StockError StockRecord → RowProgram call.Answer}
    (htracked : Tracked call rows guards stage (.ask (.lockProduct product) resume))
    (hhandle : rows.inventory.handles.find? product = some row)
    (hcontents : rows.inventory.contents row = some record) (hproduct : record.product = product) :
    Tracked call rows (guards.addRecord product row)
      { stage with products := stage.products ++ [product] } (resume (.ok record)) where
  cover := {
    present := fun other found hguard => by
      rw [Guards.addRecord, SortedMap.find?_insert] at hguard
      split at hguard
      · rename_i hsame
        rwa [← hsame, ← Option.some.inj hguard]
      · exact htracked.cover.present other found hguard
    locked := fun other hmem => by
      rw [Guards.addRecord, SortedMap.find?_insert]
      split
      · exact ⟨row, rfl⟩
      · rename_i hne
        have hlocked := (List.mem_append.1 hmem).resolve_right
          fun hlast => hne (List.mem_singleton.1 hlast).symm
        exact htracked.cover.locked other hlocked
    reservation := htracked.cover.reservation }
  follows := htracked.follows.2 (.ok record) hproduct
  same store hagrees := by
    have hrecord : store.inventory.find? product = some record := by
      rw [hagrees.records product row, hcontents]
      rw [Guards.addRecord, SortedMap.find?_insert, if_pos rfl]
    refine (htracked.same store ⟨fun other found hguard => ?_, hagrees.reservation⟩).trans ?_
    · by_cases hsame : product = other
      · subst hsame
        have hpresent := htracked.cover.present product found hguard
        rw [hrecord, ← Option.some.inj (hhandle.symm.trans hpresent), hcontents]
      · refine hagrees.records other found ?_
        rw [Guards.addRecord, SortedMap.find?_insert, if_neg hsame, hguard]
    · rw [Program.run_ask, MemoryStore.answerRow, hrecord]

theorem grantReservation {id : Uuid} {row : Nat} {reservation : Reservation}
    {resume : Except StockError Reservation → RowProgram call.Answer}
    (htracked : Tracked call rows guards stage (.ask (.lockReservation id) resume))
    (hhandle : rows.reservations.handles.find? id = some row)
    (hcontents : rows.reservations.contents row = some reservation)
    (hid : reservation.id = id) :
    Tracked call rows (guards.addReservation row) { stage with reservation := some id }
      (resume (.ok reservation)) where
  cover := {
    present := htracked.cover.present
    locked := htracked.cover.locked
    reservation := fun other hother => by
      cases hother
      exact ⟨row, rfl, hhandle⟩ }
  follows := htracked.follows.2 (.ok reservation) hid
  same store hagrees := by
    have hfound : store.reservations.find? id = some reservation := by
      rw [hagrees.reservation id row rfl rfl]
      exact hcontents
    have hnone : stage.reservation = none := htracked.follows.1.2.1
    refine (htracked.same store ⟨hagrees.records, fun other found hother _ => ?_⟩).trans ?_
    · rw [hnone] at hother
      cases hother
    · rw [Program.run_ask, MemoryStore.answerRow, hfound]

end Tracked

/-- The row that a call waits for has been emptied. -/
def Phase.IsEmptied {α : Type} (rows : SharedRows) : Phase α → Prop
  | .awaitsRecord _ _ row _ => rows.inventory.contents row = none
  | _ => False

namespace Pending

variable {call : RowCall} {rows later : SharedRows} {others : Guards} {phase : Phase call.Answer}

theorem frame (hpending : Pending call rows phase) (hsound : rows.Sound)
    (hadvanced : rows.Advanced others later) (hapart : phase.guards.Apart others)
    (hfilled : ¬ phase.IsEmptied later) : Pending call later phase := by
  cases hpending with
  | idle => exact .idle
  | record hhandle htracked =>
    rcases hadvanced.removed _ _ hhandle with hkept | ⟨hempty, _⟩
    · exact .record hkept (htracked.frame hsound hadvanced hapart)
    · exact absurd hempty hfilled
  | reservation hhandle htracked =>
    exact .reservation (hadvanced.kept _ _ hhandle) (htracked.frame hsound hadvanced hapart)

/-- A call whose row has just been removed is settled, and leaves the store as it is. -/
theorem settled_of_emptied (hpending : Pending call rows phase) (hsound : rows.Sound)
    (hadvanced : rows.Advanced others later) (hapart : phase.guards.Apart others)
    (hlater : later.Sound) {store : MemoryStore} (hshows : later.Shows store)
    (hempty : phase.IsEmptied later) :
    ∃ answer, MemoryStore.answer call.toStoreCall store = (answer, store) ∧
      Settled later answer phase := by
  cases hpending with
  | idle => exact hempty.elim
  | reservation hhandle htracked => exact hempty.elim
  | record hhandle htracked =>
    rcases hadvanced.removed _ _ hhandle with hkept | ⟨hcontents, hmissing⟩
    · obtain ⟨value, hvalue⟩ := hlater.inventory.filled _ _ hkept
      exact absurd (hvalue.symm.trans hempty) (Option.some_ne_none value)
    · obtain ⟨answer, hdone, hanswer⟩ :=
        (htracked.frame hsound hadvanced hapart).answer_of_missing hshows hmissing
      have hbelow := (hsound.inventory.below _ _ hhandle).trans_le hadvanced.inventory.made
      exact ⟨answer, hanswer, .emptied hbelow hcontents hdone⟩

end Pending

/-- Once settled, a call stays so whatever others do with rows that have contents. -/
theorem Settled.frame {α : Type} {rows later : SharedRows} {others : Guards} {answer : α}
    {phase : Phase α} (hsettled : Settled rows answer phase)
    (hadvanced : rows.Advanced others later)
    (hheld : ∀ row ∈ others.records.values, rows.inventory.contents row ≠ none) :
    Settled later answer phase := by
  cases hsettled with
  | returned => exact .returned
  | emptied hbelow hempty hdone =>
    have hkept := hadvanced.inventory.contents _ hbelow fun hmem => hheld _ hmem hempty
    exact .emptied (hbelow.trans_le hadvanced.inventory.made) (hkept.trans hempty) hdone

namespace Linearized

variable {count : Nat} {calls : Fin count → RowCall} {store : MemoryStore}
  {system : Processes calls}
  {order : List (Fin count)}

@[simp]
theorem phase_put_self (process : Fin count) (result : Phase (calls process).Answer × SharedRows) :
    (system.put process result).phase process = result.1 :=
  Function.update_self ..

theorem phase_put_of_ne {process other : Fin count} (hne : other ≠ process)
    (result : Phase (calls process).Answer × SharedRows) :
    (system.put process result).phase other = system.phase other :=
  Function.update_of_ne hne ..

/-- A process has locks of its own in a system, however it goes on with them. -/
def Owns (system : Processes calls) (process : Fin count) (guards : Guards) : Prop :=
  ∀ other, other ≠ process → guards.Apart (system.phase other).guards

theorem apart_put (hlinearized : Linearized calls store system order) {process : Fin count}
    {result : Phase (calls process).Answer × SharedRows}
    (howns : Owns system process result.1.guards) :
    ∀ one other, one ≠ other → ((system.put process result).phase one).guards.Apart
      ((system.put process result).phase other).guards := by
  intro one other hne
  by_cases hone : one = process
  · subst hone
    rw [phase_put_self, phase_put_of_ne hne.symm]
    exact howns other hne.symm
  · rw [phase_put_of_ne hone]
    by_cases hother : other = process
    · subst hother
      rw [phase_put_self]
      exact (howns one hone).symm
    · rw [phase_put_of_ne hother]
      exact hlinearized.apart one other hne

/-- A process that comes to wait for a lock has changed nothing. -/
theorem waits (hlinearized : Linearized calls store system order) {process : Fin count}
    (hmem : process ∉ order) {phase : Phase (calls process).Answer}
    (howns : Owns system process phase.guards)
    (hpending : Pending (calls process) system.rows phase) :
    Linearized calls store (system.put process (phase, system.rows)) order where
  nodup := hlinearized.nodup
  shows := hlinearized.shows
  sound := hlinearized.sound
  apart := hlinearized.apart_put howns
  settled other hother := by
    rw [phase_put_of_ne (ne_of_mem_of_not_mem hother hmem)]
    exact hlinearized.settled other hother
  pending other hother := by
    by_cases hsame : other = process
    · subst hsame
      rw [phase_put_self]
      exact hpending
    · rw [phase_put_of_ne hsame]
      exact hlinearized.pending other hother

theorem owns_empty (process : Fin count) : Owns system process .empty :=
  fun _ _ => .empty _

/-- A process that returns takes the next place in the order, and with it all those whose rows it
has removed. -/
theorem returns (hlinearized : Linearized calls store system order) {process : Fin count}
    (hmem : process ∉ order) {guards : Guards} (howns : Owns system process guards)
    (hheld : ∀ row ∈ guards.records.values, system.rows.inventory.contents row ≠ none)
    {answer : (calls process).Answer} {last : MemoryStore} {later : SharedRows}
    (hanswer : MemoryStore.answer (calls process).toStoreCall (after calls store order) =
      (answer, last))
    (hshows : later.Shows last) (hsound : later.Sound)
    (hadvanced : system.rows.Advanced guards later) :
    ∃ still, Linearized calls store (system.put process (.returned answer, later))
      (order ++ process :: still) := by
  classical
  let still := (List.finRange count).filter fun other =>
    other ∉ order ∧ other ≠ process ∧ (system.phase other).IsEmptied later
  have hstill {other : Fin count} : other ∈ still ↔
      other ∉ order ∧ other ≠ process ∧ (system.phase other).IsEmptied later := by
    simp [still]
  have hemptied {other : Fin count} (hother : other ∈ still) :
      ∃ answer, MemoryStore.answer (calls other).toStoreCall last = (answer, last) ∧
        Settled later answer (system.phase other) := by
    obtain ⟨hfree, hne, hempty⟩ := hstill.1 hother
    exact (hlinearized.pending other hfree).settled_of_emptied hlinearized.sound hadvanced
      (howns other hne).symm hsound hshows hempty
  have hlast : after calls store (order ++ [process]) = last := by
    rw [RowCall.after_append]
    exact congrArg Prod.snd hanswer
  have hafter {more : List (Fin count)} (hmore : ∀ other ∈ more, other ∈ still) :
      after calls store (order ++ process :: more) = last := by
    rw [List.append_cons, RowCall.after_append, hlast]
    refine RowCall.after_of_still fun other hother => ?_
    obtain ⟨_, hsame, _⟩ := hemptied (hmore other hother)
    rw [hsame]
  refine ⟨still, ?_, hafter (fun _ => id) ▸ hshows, hsound,
    hlinearized.apart_put (owns_empty process), ?_, ?_⟩
  · have hfirst : process ∉ still := fun hother => (hstill.1 hother).2.1 rfl
    have hrest : still.Nodup := (List.nodup_finRange count).filter _
    refine List.nodup_append.2 ⟨hlinearized.nodup, List.nodup_cons.2 ⟨hfirst, hrest⟩, ?_⟩
    intro one hone other hother heq
    subst heq
    rcases List.mem_cons.1 hother with rfl | hother
    · exact hmem hone
    · exact (hstill.1 hother).1 hone
  · intro other hother
    by_cases hplaced : other ∈ order
    · rw [phase_put_of_ne (ne_of_mem_of_not_mem hplaced hmem), RowCall.answerIn_append hplaced]
      exact (hlinearized.settled other hplaced).frame hadvanced hheld
    · rw [answerIn, RowCall.takeWhile_append_of_not_mem hplaced]
      rcases List.mem_cons.1 ((List.mem_append.1 hother).resolve_left hplaced) with rfl | hother
      · rw [phase_put_self, List.takeWhile_cons_of_neg (by simp), List.append_nil, hanswer]
        exact .returned
      · have hne := (hstill.1 hother).2.1
        obtain ⟨found, hfound, hsettled⟩ := hemptied hother
        rw [phase_put_of_ne hne, List.takeWhile_cons_of_pos (by simpa using hne.symm),
          hafter fun _ hbefore => (List.takeWhile_subset _) hbefore, hfound]
        exact hsettled
  · intro other hother
    simp only [List.mem_append, List.mem_cons, not_or] at hother
    obtain ⟨hfree, hne, hlater⟩ := hother
    rw [phase_put_of_ne hne]
    exact (hlinearized.pending other hfree).frame hlinearized.sound hadvanced (howns other hne).symm
      fun hempty => hlater (hstill.2 ⟨hfree, hne, hempty⟩)

theorem keyed (hlinearized : Linearized calls store system order) (hkeyed : store.Keyed) :
    (∀ product row record, system.rows.inventory.handles.find? product = some row →
      system.rows.inventory.contents row = some record → record.product = product) ∧
    ∀ id row reservation, system.rows.reservations.handles.find? id = some row →
      system.rows.reservations.contents row = some reservation → reservation.id = id := by
  have hafter := RowCall.keyed_after calls hkeyed order
  constructor
  · intro product row record hhandle hcontents
    refine hafter.records product record ?_
    rw [← hlinearized.shows.inventory, Rows.find?_of_handle hhandle, hcontents]
  · intro id row reservation hhandle hcontents
    refine hafter.reservations id reservation ?_
    rw [← hlinearized.shows.reservations, Rows.find?_of_handle hhandle, hcontents]

/-- A segment of a call that has no place in the order keeps the order or extends it. -/
theorem segment (hlinearized : Linearized calls store system order) (hkeyed : store.Keyed)
    (hfresh : RowCall.FreshIds calls store) {process : Fin count} (hmem : process ∉ order)
    {guards : Guards} {stage : LockStage} {rest : RowProgram (calls process).Answer}
    (howns : Owns system process guards)
    (htracked : Tracked (calls process) system.rows guards stage rest) :
    ∃ more, Linearized calls store
      (system.put process (Phase.advance guards rest system.rows)) (order ++ more) := by
  have habsent : ∀ id ∈ (calls process).adds,
      (after calls store order).reservations.find? id = none := fun id hid =>
    RowCall.absent_after hkeyed (hfresh.unused process id hid) fun other hother =>
      hfresh.distinct process other (ne_of_mem_of_not_mem hother hmem).symm id hid
  have hends := Phase.advance_ends htracked.follows hlinearized.sound hlinearized.shows
    (fun _ => htracked.cover) habsent
  generalize Phase.advance guards rest system.rows = result at hends
  cases hends with
  | done hrun hshows hsound hadvanced =>
    have hheld : ∀ row ∈ guards.records.values, system.rows.inventory.contents row ≠ none := by
      intro row hrow
      obtain ⟨product, hguard⟩ := SortedMap.mem_values_iff.1 hrow
      obtain ⟨value, hvalue⟩ := hlinearized.sound.inventory.filled product row
        (htracked.cover.present product row hguard)
      exact hvalue ▸ Option.some_ne_none value
    obtain ⟨still, hreturned⟩ := hlinearized.returns hmem howns hheld
      ((htracked.answer_eq hlinearized.shows).trans hrun) hshows hsound hadvanced
    exact ⟨_, hreturned⟩
  | waitsRecord hhandle =>
    exact ⟨[], (List.append_nil order).symm ▸
      hlinearized.waits hmem howns (.record hhandle htracked)⟩
  | waitsReservation hhandle =>
    exact ⟨[], (List.append_nil order).symm ▸
      hlinearized.waits hmem howns (.reservation hhandle htracked)⟩

/-- A settled process that returns changes nothing. -/
theorem finishes (hlinearized : Linearized calls store system order) {process : Fin count}
    (hmem : process ∈ order) :
    Linearized calls store
      (system.put process (.returned (answerIn calls store order process), system.rows)) order where
  nodup := hlinearized.nodup
  shows := hlinearized.shows
  sound := hlinearized.sound
  apart := hlinearized.apart_put (owns_empty process)
  settled other hother := by
    by_cases hsame : other = process
    · subst hsame
      rw [phase_put_self]
      exact .returned
    · rw [phase_put_of_ne hsame]
      exact hlinearized.settled other hother
  pending other hother := by
    rw [phase_put_of_ne (ne_of_mem_of_not_mem hmem hother).symm]
    exact hlinearized.pending other hother

theorem step_idle (hlinearized : Linearized calls store system order) (hkeyed : store.Keyed)
    (hfresh : RowCall.FreshIds calls store) {process : Fin count} (hmem : process ∉ order) :
    ∃ more, Linearized calls store
      (system.put process ((calls process).start system.rows)) (order ++ more) := by
  rcases (calls process).start_cases with ⟨record, hcall⟩ | ⟨program, hstart, hrun, hfollows⟩
  · obtain ⟨answer, last, later, hstart, hanswer, hshows, hsound, hadvanced⟩ :=
      RowCall.start_create hcall hlinearized.sound hlinearized.shows
    rw [hstart]
    obtain ⟨still, hreturned⟩ := hlinearized.returns hmem (owns_empty process)
      (fun _ hrow => (List.not_mem_nil hrow).elim) hanswer hshows hsound hadvanced
    exact ⟨_, hreturned⟩
  · rw [hstart]
    refine hlinearized.segment hkeyed hfresh hmem (owns_empty process) ⟨⟨?_, ?_, ?_⟩, hfollows, ?_⟩
    · exact fun _ _ hguard => (Option.some_ne_none _ hguard.symm).elim
    · exact fun _ hlocked => (List.not_mem_nil hlocked).elim
    · exact nofun
    · exact fun store _ => (hrun store).symm

theorem step_record (hlinearized : Linearized calls store system order) (hkeyed : store.Keyed)
    (hfresh : RowCall.FreshIds calls store) {process : Fin count} {guards : Guards}
    {product : ProductId} {row : Nat}
    {resume : Except StockError StockRecord → RowProgram (calls process).Answer}
    (hphase : system.phase process = .awaitsRecord guards product row resume)
    (hfree : ¬ ∃ other, row ∈ (system.phase other).guards.records.values) :
    ∃ more, Linearized calls store (system.put process
      (Phase.grantRecord guards product row resume system.rows)) (order ++ more) := by
  rw [Phase.grantRecord]
  by_cases hmem : process ∈ order
  · have hsettled := hlinearized.settled process hmem
    rw [hphase] at hsettled
    cases hsettled with
    | emptied _ hempty hdone =>
      rw [hempty]
      dsimp only
      rw [hdone, Phase.advance]
      exact ⟨[], (List.append_nil order).symm ▸ hlinearized.finishes hmem⟩
  · have hpending := hlinearized.pending process hmem
    rw [hphase] at hpending
    cases hpending with
    | record hhandle htracked =>
      obtain ⟨record, hcontents⟩ := hlinearized.sound.inventory.filled product row hhandle
      have hproduct := (hlinearized.keyed hkeyed).1 product row record hhandle hcontents
      rw [hcontents]
      refine hlinearized.segment hkeyed hfresh hmem (fun other hne => ?_)
        (htracked.grantRecord hhandle hcontents hproduct)
      have hapart := hlinearized.apart process other hne.symm
      rw [hphase] at hapart
      exact hapart.addRecord product fun hheld => hfree ⟨other, hheld⟩

theorem step_reservation (hlinearized : Linearized calls store system order) (hkeyed : store.Keyed)
    (hfresh : RowCall.FreshIds calls store) {process : Fin count} {guards : Guards}
    {id : Uuid} {row : Nat}
    {resume : Except StockError Reservation → RowProgram (calls process).Answer}
    (hphase : system.phase process = .awaitsReservation guards id row resume)
    (hfree : ¬ ∃ other, (system.phase other).guards.reservation = some row) :
    ∃ more, Linearized calls store (system.put process
      (Phase.grantReservation guards id row resume system.rows)) (order ++ more) := by
  have hmem : process ∉ order := by
    intro hmem
    have hsettled := hlinearized.settled process hmem
    rw [hphase] at hsettled
    cases hsettled
  have hpending := hlinearized.pending process hmem
  rw [hphase] at hpending
  cases hpending with
  | reservation hhandle htracked =>
    obtain ⟨reservation, hcontents⟩ := hlinearized.sound.reservations.filled id row hhandle
    have hid := (hlinearized.keyed hkeyed).2 id row reservation hhandle hcontents
    rw [Phase.grantReservation, hcontents]
    refine hlinearized.segment hkeyed hfresh hmem (fun other hne => ?_)
      (htracked.grantReservation hhandle hcontents hid)
    have hapart := hlinearized.apart process other hne.symm
    rw [hphase] at hapart
    exact hapart.addReservation fun hheld => hfree ⟨other, hheld⟩

theorem step (hlinearized : Linearized calls store system order) (hkeyed : store.Keyed)
    (hfresh : RowCall.FreshIds calls store) (process : Fin count) :
    ∃ more, Linearized calls store (system.step process) (order ++ more) := by
  have hsame : ∃ more, Linearized calls store system (order ++ more) :=
    ⟨[], (List.append_nil order).symm ▸ hlinearized⟩
  rw [Processes.step]
  split
  · rename_i hphase
    refine hlinearized.step_idle hkeyed hfresh fun hmem => ?_
    have hsettled := hlinearized.settled process hmem
    rw [hphase] at hsettled
    cases hsettled
  · rename_i hphase
    split
    · exact hsame
    · exact hlinearized.step_record hkeyed hfresh hphase ‹_›
  · rename_i hphase
    split
    · exact hsame
    · exact hlinearized.step_reservation hkeyed hfresh hphase ‹_›
  · exact hsame

end Linearized

end Stockroom
