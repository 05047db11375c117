import Stockroom.Proofs.Agreement.Runs
import Stockroom.Proofs.Database.Calls
import Stockroom.Proofs.Service.Request

/-!
# The service in lockstep over both stores

As long as the service asks its store only for what both stores answer alike,
and gives what it adds the id that it has just drawn, it does the same over a
database as over the store in memory, in whatever order the database keeps its
rows.
-/

namespace Stockroom

/-- Surroundings that differ at most in what their clocks show. -/
structure Surroundings.Matches (left right : Surroundings) : Prop where
  cache : left.cache = right.cache
  supply : left.supply = right.supply
  drawn : left.drawn = right.drawn

namespace Surroundings.Matches

variable {left right : Surroundings}

theorem rfl {around : Surroundings} : around.Matches around := ⟨Eq.refl _, Eq.refl _, Eq.refl _⟩

theorem drawnIds (hmatches : left.Matches right) : left.drawnIds = right.drawnIds := by
  rw [Surroundings.drawnIds, Surroundings.drawnIds, hmatches.supply, hmatches.drawn]

theorem atReading (hmatches : left.Matches right) (reading : ClockReading) :
    left.atReading reading = right.atReading reading := by
  rw [Surroundings.atReading, Surroundings.atReading, hmatches.cache, hmatches.supply,
    hmatches.drawn]

end Surroundings.Matches

/-- The service over a database is where the service in memory is, whose last drawn id may not
have been used yet. -/
structure Related (drawn : Option Uuid) (state : MemoryService × Nat)
    (twin : DatabaseService × Nat) : Prop where
  count : twin.2 = state.2
  around : twin.1.around.Matches state.1.around
  store : ∃ (contents : Database.Contents) (ids : Set Uuid),
    twin.1.database.Idle contents.tables ∧ contents.Mirrors state.1.store ids ∧
      ∀ id ∈ ids, id ∈ state.1.around.drawnIds ∧ drawn ≠ some id
  drawn : ∀ id, drawn = some id → id ∈ state.1.around.drawnIds
  reachable : state.1.store.Reachable

namespace ServiceCall

/-- Only what both stores answer alike, under the id that was drawn last. -/
def fitting : Protocol ServiceRequest ServiceRequest.Answer (Option Uuid) where
  allows drawn request :=
    match request with
    | .store call => call.Fits { id | drawn ≠ some id }
    | .aside _ => True
  expects _ request answer :=
    match request, answer with
    | .aside .now, time => time.IsWhole
    | _, _ => True
  next drawn request answer :=
    match request, answer with
    | .aside .freshId, id => some id
    | .aside _, _ => drawn
    | .store _, _ => none

end ServiceCall

section Answers

variable {readings : Nat → ClockReading} {drawn : Option Uuid} {state : MemoryService × Nat}
  {twin : DatabaseService × Nat}

/-- A call that fits the ids so far leaves related services behind. -/
theorem related_store (hrelated : Related drawn state twin) {call : StoreCall}
    (hfits : call.Fits { id | drawn ≠ some id })
    (horderly : (DatabaseService.answerTimed readings (.store call) twin).2.1.Orderly) :
    (DatabaseService.answerTimed readings (.store call) twin).1 =
        (MemoryService.answerTimed readings (.store call) state).1 ∧
      Related none (MemoryService.answerTimed readings (.store call) state).2
        (DatabaseService.answerTimed readings (.store call) twin).2 := by
  obtain ⟨contents, ids, hidle, hmirrors, hids⟩ := hrelated.store
  have hunused : call.Fits ids := hfits.anti fun id hid => (hids id hid).2
  obtain ⟨after, hanswers, hafter⟩ := Database.answers_call (readings twin.2).wallClock
    twin.1.lockTimeout hmirrors hunused
  obtain ⟨hanswer, hidle⟩ := hanswers twin.1.database hidle horderly.served
  refine ⟨hanswer, congrArg (· + 1) hrelated.count, ?_,
    ⟨after, call.idsAfter ids, hidle, hafter, ?_⟩, nofun,
    hrelated.reachable.answer call (hunused.isIssued hmirrors)⟩
  · exact ⟨hrelated.around.cache, hrelated.around.supply, hrelated.around.drawn⟩
  · intro id hid
    refine ⟨?_, nofun⟩
    cases call with
    | create record | reserve reservation =>
      rcases Set.mem_insert_iff.1 hid with rfl | hold
      · exact hrelated.drawn _ (not_not.1 hfits.1)
      · exact (hids id hold).1
    | _ => exact (hids id hid).1

theorem related_aside (hreadings : ∀ index, (readings index).clock.IsWhole)
    (hrelated : Related drawn state twin) (request : LocalRequest)
    (horderly : (DatabaseService.answerTimed readings (.aside request) twin).2.1.Orderly) :
    (DatabaseService.answerTimed readings (.aside request) twin).1 =
        (MemoryService.answerTimed readings (.aside request) state).1 ∧
      ServiceCall.fitting.expects drawn (.aside request)
        (MemoryService.answerTimed readings (.aside request) state).1 ∧
      Related (ServiceCall.fitting.next drawn (.aside request)
          (MemoryService.answerTimed readings (.aside request) state).1)
        (MemoryService.answerTimed readings (.aside request) state).2
        (DatabaseService.answerTimed readings (.aside request) twin).2 := by
  obtain ⟨contents, ids, hidle, hmirrors, hids⟩ := hrelated.store
  have haround : twin.1.around.atReading (readings twin.2) =
      state.1.around.atReading (readings state.2) := by
    rw [hrelated.count]
    exact hrelated.around.atReading _
  have hcount : twin.2 + 1 = state.2 + 1 := congrArg (· + 1) hrelated.count
  have hsame : (DatabaseService.answerTimed readings (.aside request) twin).1 =
      (MemoryService.answerTimed readings (.aside request) state).1 := by
    change (Surroundings.answer request (twin.1.around.atReading (readings twin.2))).1 = _
    rw [haround]
    rfl
  have hmatches : (DatabaseService.answerTimed readings (.aside request) twin).2.1.around.Matches
      (MemoryService.answerTimed readings (.aside request) state).2.1.around := by
    change (Surroundings.answer request (twin.1.around.atReading (readings twin.2))).2.Matches _
    rw [haround]
    exact Surroundings.Matches.rfl
  cases request with
  | freshId =>
    have hdrawn : (MemoryService.answerTimed readings (.aside .freshId) state).2.1.around.drawnIds =
        state.1.around.drawnIds ++ [state.1.around.supply state.1.around.drawn] :=
      Surroundings.drawnIds_succ (state.1.around.atReading (readings state.2))
    have hfresh := horderly.fresh
    rw [hmatches.drawnIds, hdrawn] at hfresh
    refine ⟨hsame, trivial, hcount, hmatches, ⟨contents, ids, hidle, hmirrors, ?_⟩, ?_,
      hrelated.reachable⟩
    · intro id hid
      rw [hdrawn]
      refine ⟨List.mem_append_left _ (hids id hid).1, fun heq => ?_⟩
      have hnew : state.1.around.supply state.1.around.drawn = id := Option.some.inj heq
      exact List.disjoint_of_nodup_append hfresh (hids id hid).1 (hnew ▸ List.mem_singleton_self _)
    · intro id heq
      rw [hdrawn, ← Option.some.inj heq]
      exact List.mem_append_right _ (List.mem_singleton_self _)
  | now =>
    exact ⟨hsame, hreadings state.2, hcount, hmatches, ⟨contents, ids, hidle, hmirrors, hids⟩,
      hrelated.drawn, hrelated.reachable⟩
  | _ =>
    exact ⟨hsame, trivial, hcount, hmatches, ⟨contents, ids, hidle, hmirrors, hids⟩,
      hrelated.drawn, hrelated.reachable⟩

/-- A call that only reads leaves related services behind. -/
theorem Related.read (hrelated : Related drawn state twin) {contents : Database.Contents}
    {ids : Set Uuid} {database : Database} (hidle : database.Idle contents.tables)
    (hmirrors : contents.Mirrors state.1.store ids)
    (hids : ∀ id ∈ ids, id ∈ state.1.around.drawnIds ∧ drawn ≠ some id)
    (reading other : ClockReading) :
    Related none (state.1.atReading reading, state.2 + 1)
      ({ twin.1.atReading other with database := database }, twin.2 + 1) where
  count := congrArg (· + 1) hrelated.count
  around := ⟨hrelated.around.cache, hrelated.around.supply, hrelated.around.drawn⟩
  store := ⟨contents, ids, hidle, hmirrors, fun id hid => ⟨(hids id hid).1, nofun⟩⟩
  drawn := nofun
  reachable := hrelated.reachable

/-- The order in which the database keeps its rows is of no account. -/
theorem Related.arranged (hrelated : Related drawn state twin) (order : Database.RowOrder) :
    Related drawn state (twin.1.arranged order, twin.2) := by
  obtain ⟨contents, ids, hidle, hmirrors, hids⟩ := hrelated.store
  obtain ⟨moved, htables, hmoved⟩ := hmirrors.of_sameRows (order.sameRows contents.tables)
  exact ⟨hrelated.count, hrelated.around, ⟨moved, ids, htables ▸ hidle.arranged order, hmoved, hids⟩,
    hrelated.drawn, hrelated.reachable⟩

/-- What fits is no listing of overdue reservations. -/
theorem StoreCall.Fits.answer_eq {call : StoreCall} {unused : Set Uuid} (hfits : call.Fits unused)
    (given : Circumstances) :
    given.answer (.store call) = MemoryService.answerTimed given.readings (.store call) := by
  cases call with
  | overdue asOf limit => exact hfits.elim
  | _ => rfl

theorem related_answer {given : Circumstances}
    (hreadings : ∀ index, (given.readings index).clock.IsWhole)
    (hrelated : Related drawn state twin) {request : ServiceRequest}
    (hallowed : ServiceCall.fitting.allows drawn request)
    (horderly : (given.answerStored request twin).2.1.Orderly) :
    (given.answerStored request twin).1 = (given.answer request state).1 ∧
      ServiceCall.fitting.expects drawn request (given.answer request state).1 ∧
      Related (ServiceCall.fitting.next drawn request (given.answer request state).1)
        (given.answer request state).2 (given.answerStored request twin).2 := by
  have harranged := hrelated.arranged (given.rows twin.2)
  cases request with
  | store call =>
    rw [hallowed.answer_eq given]
    obtain ⟨hsame, hafter⟩ := related_store harranged hallowed horderly
    exact ⟨hsame, trivial, hafter⟩
  | aside request => exact related_aside hreadings harranged request horderly

end Answers

/-! ## Programs in lockstep -/

section Alike

variable {given : Circumstances} {α β : Type}

/-- From related services on, two programs have related values and leave related services, the
first in memory and the second over a database. -/
def Alike (given : Circumstances) (same : α → β → Prop) (first : ServiceProgram α)
    (second : ServiceProgram β) : Prop :=
  ∀ drawn state twin, Related drawn state twin →
    (second.run given.answerStored twin).2.1.Orderly →
      same (first.run given.answer state).1 (second.run given.answerStored twin).1 ∧
        ∃ last, Related last (first.run given.answer state).2
          (second.run given.answerStored twin).2

/-- A call that asks only for what fits, whatever id was drawn before. -/
def ServiceCall.Fits (call : ServiceCall α) : Prop :=
  ∀ drawn, Program.Conforms ServiceCall.fitting (fun _ _ => True) call drawn

theorem alike_of_follows (hreadings : ∀ index, (given.readings index).clock.IsWhole)
    {program : ServiceProgram α}
    (hfollows : ∀ drawn, program.Follows ServiceCall.fitting (fun _ _ => True) drawn) :
    Alike given (· = ·) program program := by
  intro drawn state twin hrelated horderly
  obtain ⟨hsame, last, _, hlast⟩ := Program.Follows.lockstep given.answer given.answerStored
    Related (·.1.Orderly) (fun request twin hafter => DatabaseService.orderly_of_answerStored hafter)
    (fun drawn state twin request hrelated hallowed =>
      related_answer hreadings hrelated hallowed) (hfollows drawn) hrelated horderly
  exact ⟨hsame.symm, last, hlast⟩

theorem Alike.bind {same : α → β → Prop} {γ δ : Type} {after : γ → δ → Prop}
    {first : ServiceProgram α} {second : ServiceProgram β}
    {firstNext : α → ServiceProgram γ} {secondNext : β → ServiceProgram δ}
    (hprograms : Alike given same first second)
    (hnext : ∀ one other, same one other →
      Alike given after (firstNext one) (secondNext other)) :
    Alike given after (first.bind firstNext) (second.bind secondNext) := by
  intro drawn state twin hrelated horderly
  rw [Program.run_bind] at horderly ⊢
  rw [Program.run_bind]
  obtain ⟨hsame, last, hmiddle⟩ :=
    hprograms drawn state twin hrelated (DatabaseService.orderly_of_run horderly)
  exact hnext _ _ hsame last _ _ hmiddle horderly

end Alike

end Stockroom
