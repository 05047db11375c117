import Stockroom.Proofs.Agreement.Operations
import Stockroom.Proofs.Database.Overdue
import Stockroom.Proofs.Service.Sweeping

/-!
# Sweeps over both stores

Both stores fetch the same reservations as overdue, up to the order of equal
deadlines, and a sweep makes the same of them.
-/

namespace Stockroom

open Program (goOn goOn_ok run_exceptT_bind)

/-- A sweep is a fetch and, if that succeeds, the expiry of what was fetched. -/
theorem Sweep.run_once {State : Type}
    (answer : (request : ServiceRequest) → State → request.Answer × State) (now : Instant)
    (batch : Nat) (state : State) :
    Program.run answer (once now batch).run state =
      goOn (Program.run answer (Service.overdue now batch).run state) fun found after =>
        let ended := Program.run answer
          (expireAll now { SweepReport.empty with examined := found.length } found) after
        (.ok ended.1, ended.2) := by
  refine (run_exceptT_bind answer (Service.overdue now batch) _ state).trans ?_
  refine congrArg _ (funext fun found => funext fun after => ?_)
  exact Program.run_bind answer (expireAll now _ found) _ after

/-- What a balanced store lists as overdue can be swept. -/
theorem Sweep.ready_of_lists {store : MemoryStore} (hbalanced : store.Balanced) {now : Instant}
    {batch : Nat} {found : List Reservation} (hlists : store.Lists now batch found) :
    Ready now found store := by
  refine ⟨hbalanced, fun reservation hmem => ?_, ?_⟩
  · obtain ⟨hstored, hpending, hexpired⟩ := hlists.mem hmem
    obtain ⟨id, hfound⟩ := SortedMap.mem_values_iff.1 hstored
    exact ⟨hbalanced.reservations id reservation hfound ▸ hfound, hpending, hexpired⟩
  · obtain ⟨met, hmet, rfl⟩ := hlists
    exact Database.nodup_overdueAmong now
      ((hmet.map Reservation.id).nodup_iff.2 hbalanced.distinct_ids) batch

section Related

variable {given : Circumstances} {drawn : Option Uuid} {state : MemoryService × Nat}
  {twin : DatabaseService × Nat}

/-- What asks only for what fits does not depend on how the store in memory lists. -/
theorem run_answer_of_follows {α : Type} {post : α → Option Uuid → Prop}
    (hreadings : ∀ index, (given.readings index).clock.IsWhole) {program : ServiceProgram α}
    (hfollows : program.Follows ServiceCall.fitting post drawn) (state : MemoryService × Nat) :
    program.run given.answer state =
      program.run (MemoryService.answerTimed given.readings) state := by
  obtain ⟨hvalue, _, _, hstate⟩ := Program.Follows.lockstep
    (MemoryService.answerTimed given.readings) given.answer (fun _ state twin => twin = state)
    (fun _ => True) (fun _ _ _ => trivial) (fun drawn state twin request htwin hallowed _ => by
      subst htwin
      cases request with
      | store call =>
        rw [hallowed.answer_eq given]
        exact ⟨rfl, trivial, rfl⟩
      | aside request =>
        cases request with
        | now => exact ⟨rfl, hreadings twin.2, rfl⟩
        | _ => exact ⟨rfl, trivial, rfl⟩) hfollows rfl trivial
  exact Prod.ext hvalue hstate

/-- Both stores fetch what is overdue, and both services go on. -/
theorem related_overdue (hrelated : Related drawn state twin) {asOf : Instant}
    (hwhole : asOf.IsWhole) {limit : Nat} (hcuts : state.1.store.CutsNoTie asOf limit)
    (horderly : (Program.run given.answerStored
      (Service.overdue asOf limit).run twin).2.1.Orderly) :
    ∃ found last,
      Program.run given.answerStored (Service.overdue asOf limit).run twin = (.ok found, last) ∧
      TiesSwapped Reservation.expiresAt (given.listing.found state.1.store asOf limit) found ∧
      Related none (Program.run given.answer (Service.overdue asOf limit).run state).2 last := by
  obtain ⟨contents, ids, hidle, hmirrors, hids⟩ := (hrelated.arranged (given.rows twin.2)).store
  obtain ⟨hanswer, hidle⟩ := Database.answers_overdue hmirrors hwhole limit _ hidle horderly.served
  refine ⟨_, _, Prod.ext (congrArg (Except.mapError CallFailure.stock) hanswer) rfl,
    hmirrors.overdue hcuts (given.listing.lists _ asOf limit), ?_⟩
  exact hrelated.read hidle hmirrors hids (given.readings state.2) (given.readings twin.2)

/-- A sweep that breaks no tie is the same over both stores. -/
theorem related_sweep (hreadings : ∀ index, (given.readings index).clock.IsWhole)
    (hrelated : Related drawn state twin) {now : Instant} (hwhole : now.IsWhole) {batch : Nat}
    (hcuts : state.1.store.CutsNoTie now batch)
    (hsettles : Sweep.SettlesTies (given.listing.found state.1.store now batch)
      (Program.run given.answer (Sweep.once now batch).run state).2.1.store)
    (horderly : (Program.run given.answerStored (Sweep.once now batch).run twin).2.1.Orderly) :
    let ended := Program.run given.answer (Sweep.once now batch).run state
    let stored := Program.run given.answerStored (Sweep.once now batch).run twin
    ended.1 = stored.1 ∧ ∃ last, Related last ended.2 stored.2 := by
  let fetched := given.listing.found state.1.store now batch
  let report : SweepReport := { SweepReport.empty with examined := fetched.length }
  let middle := (Program.run given.answer (Service.overdue now batch).run state).2
  have hfits (reservations : List Reservation) (drawn : Option Uuid) :=
    ServiceCall.Fits.expireAll hwhole report reservations drawn
  have hended : Program.run given.answer (Sweep.once now batch).run state =
      (.ok (Sweep.ended given.readings now report fetched middle).1,
        (Sweep.ended given.readings now report fetched middle).2) := by
    rw [Sweep.ended, ← run_answer_of_follows hreadings (hfits fetched none)]
    exact Sweep.run_once _ now batch state
  rw [Sweep.run_once] at horderly
  have hfetched : (Program.run given.answerStored
      (Service.overdue now batch).run twin).2.1.Orderly := by
    rcases hrun : Program.run given.answerStored
      (Service.overdue now batch).run twin with ⟨error | found, last⟩
    · rw [hrun] at horderly
      exact horderly
    · rw [hrun] at horderly
      exact DatabaseService.orderly_of_run horderly
  obtain ⟨found, last, hfound, hswapped, hmiddle⟩ :=
    related_overdue hrelated hwhole hcuts hfetched
  have hready : Sweep.Ready now fetched middle.1.store :=
    Sweep.ready_of_lists hrelated.reachable.balanced (given.listing.lists _ now batch)
  rw [hended] at hsettles
  have hsame := Sweep.ended_eq_of_tiesSwapped hswapped report hready hsettles
  rw [hfound, goOn_ok, ← hswapped.same.perm.length_eq] at horderly
  obtain ⟨hreport, hlast⟩ :=
    alike_of_follows hreadings (hfits found) none middle last hmiddle horderly
  rw [run_answer_of_follows hreadings (hfits found none)] at hreport hlast
  intro ended stored
  have hstored : stored = (.ok (Program.run given.answerStored
      (Sweep.expireAll now report found) last).1, (Program.run given.answerStored
        (Sweep.expireAll now report found) last).2) := by
    rw [show stored = _ from Sweep.run_once _ now batch twin, hfound, goOn_ok,
      ← hswapped.same.perm.length_eq]
  rw [show ended = _ from hended, hsame, hstored]
  exact ⟨congrArg Except.ok hreport, hlast⟩

end Related

end Stockroom
