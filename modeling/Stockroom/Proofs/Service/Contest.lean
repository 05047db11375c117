import Stockroom.Proofs.Agreement.Sweeps
import Stockroom.Proofs.Service.Lifecycle

/-!
# Sweeps among other callers

A sweep asks its store once for what is overdue and then once for each
reservation, and before each of these calls other callers may carry out any
operations.  Reservations with the same deadline may come in any order.  Such a
sweep is a run of single calls, its own between those of others.
-/

namespace Stockroom

open Program (goOn)

/-- A sweep with the operations that others carry out before its store calls, under the number of
the request. -/
structure ContestedSweep where
  now : Instant
  batch : Nat
  listing : Listing
  readings : Nat → ClockReading
  others : Nat → List Step

/-- The turn of one reservation in a sweep: what others did since the turn before, their calls since
the fetch, and the call that expires the reservation with what it met. -/
structure Turn where
  reservation : Reservation
  others : List Step
  since : List MadeCall
  met : MemoryService
  now : Instant
  readings : Nat → ClockReading

namespace Turn

def step (turn : Turn) : Step :=
  ⟨.expire turn.reservation.id turn.now, turn.readings⟩

def expiring (turn : Turn) : MadeCall :=
  ⟨turn.met, turn.step⟩

def steps (turn : Turn) : List Step :=
  turn.others ++ [turn.step]

/-- What the call returned. -/
def outcome (turn : Turn) : Except CallFailure Outcome :=
  (MemoryService.timed turn.readings (Service.expire turn.reservation.id turn.now)
    (turn.met, 0)).1

end Turn

namespace ContestedSweep

variable (sweep : ContestedSweep) (settings : ServiceSettings)

/-- Others come first whenever the sweep asks its store. -/
def answer : (request : ServiceRequest) → MemoryService × Nat →
    request.Answer × MemoryService × Nat
  | .store call, state =>
    MemoryService.answerListing sweep.listing sweep.readings (.store call)
      (state.1.after settings (sweep.others state.2), state.2)
  | .aside request, state => MemoryService.answerTimed sweep.readings (.aside request) state

/-- A sweep without others that meets reservations by id is the operation of the service. -/
theorem answer_alone (now : Instant) (batch : Nat) (readings : Nat → ClockReading) :
    answer ⟨now, batch, .byId, readings, fun _ => []⟩ settings =
      MemoryService.answerTimed readings := by
  funext request state
  cases request with
  | store call => exact congrFun (congrFun (MemoryService.answerListing_byId readings) _) state
  | aside request => rfl

/-- The report of the sweep and the service after it. -/
def run (service : MemoryService) : Except CallFailure SweepReport × MemoryService :=
  let ended := Program.run (sweep.answer settings) (Sweep.once sweep.now sweep.batch).run
    (service, 0)
  (ended.1, ended.2.1)

/-- The service that the fetch leaves. -/
def opened (service : MemoryService) : MemoryService :=
  (service.after settings (sweep.others 0)).atReading (sweep.readings 0)

/-- The reservations that the sweep fetches. -/
def fetched (service : MemoryService) : List Reservation :=
  sweep.listing.found (sweep.opened settings service).store sweep.now sweep.batch

/-- The turns of reservations, one after another. -/
def turnsFrom (since : List MadeCall) : MemoryService × Nat → List Reservation → List Turn
  | _, [] => []
  | (service, count), reservation :: rest =>
    let others := sweep.others count
    let met := service.after settings others
    let made := since ++ service.made settings (service.calls settings others)
    ⟨reservation, others, made, met, sweep.now, fun index => sweep.readings (count + index)⟩ ::
      turnsFrom made
        (MemoryService.timed sweep.readings (Service.expire reservation.id sweep.now)
          (met, count)).2
        rest

/-- The turns of all that was fetched. -/
def turns (service : MemoryService) : List Turn :=
  sweep.turnsFrom settings [] (sweep.opened settings service, 1) (sweep.fetched settings service)

/-- The sweep and the others as one sequence of operations. -/
def steps (service : MemoryService) : List Step :=
  sweep.others 0 ++ ⟨.overdue sweep.now sweep.batch, sweep.readings⟩ ::
    (sweep.turns settings service).flatMap Turn.steps

/-- A reservation expires once the others have gone before. -/
theorem run_expire (id : Uuid) (state : MemoryService × Nat) :
    Program.run (sweep.answer settings) (Service.expire id sweep.now).run state =
      MemoryService.timed sweep.readings (Service.expire id sweep.now)
        (state.1.after settings (sweep.others state.2), state.2) := by
  rw [Service.expire, Service.resolve, MemoryService.timed_bind, Program.run_exceptT_bind]
  change goOn (MemoryService.timed sweep.readings
    (ServiceCall.store (.resolve id .expire sweep.now)) _) _ = _
  congr 1
  funext outcome after
  cases outcome.wasApplied with
  | false => rfl
  | true =>
    -- Nobody comes before a request that is not for the store.
    have hforgotten := Service.run_forgetLines_return (sweep.answer settings)
      outcome.reservation.lines outcome after
    exact hforgotten.trans (Service.run_forgetLines_return
      (MemoryService.answerTimed sweep.readings) outcome.reservation.lines outcome after).symm

theorem run_expireAll (since : List MadeCall) (report : SweepReport)
    (reservations : List Reservation) (state : MemoryService × Nat) :
    let ended := Program.run (sweep.answer settings)
      (Sweep.expireAll sweep.now report reservations) state
    let turns := sweep.turnsFrom settings since state reservations
    ended.1 = (turns.map Turn.outcome).foldl SweepReport.count report ∧
      ended.2.1 = state.1.after settings (turns.flatMap Turn.steps) := by
  induction reservations generalizing since report state with
  | nil => exact ⟨rfl, rfl⟩
  | cons reservation rest ih =>
    intro ended turns
    let met := state.1.after settings (sweep.others state.2)
    let made := since ++ state.1.made settings (state.1.calls settings (sweep.others state.2))
    let first : Turn := ⟨reservation, sweep.others state.2, made, met, sweep.now,
      fun index => sweep.readings (state.2 + index)⟩
    let expired := MemoryService.timed sweep.readings (Service.expire reservation.id sweep.now)
      (met, state.2)
    have hended : ended = Program.run (sweep.answer settings)
        (Sweep.expireAll sweep.now (report.count expired.1) rest) expired.2 := by
      refine (Program.run_bind (sweep.answer settings) _ _ state).trans ?_
      rw [run_expire]
    have hshift := MemoryService.perform_expire sweep.readings (met, state.2) reservation.id
      sweep.now
    have houtcome : expired.1 = first.outcome := congrArg (fun ended => ended.1) hshift
    have hleft : expired.2.1 = (first.step.perform settings met).2 :=
      congrArg (fun ended => ended.2.1) hshift
    obtain ⟨hreport, hlast⟩ := ih made (report.count expired.1) expired.2
    have hturns : turns = first :: sweep.turnsFrom settings made expired.2 rest := rfl
    constructor
    · rw [hended, hreport, hturns, houtcome]
      rfl
    · rw [hended, hlast, hturns, List.flatMap_cons, MemoryService.after_append, Turn.steps,
        MemoryService.after_append, hleft]
      rfl

/-- A sweep among others reports on the turns of what it fetched, and leaves behind what the
sequence of all operations leaves behind. -/
theorem run_eq (service : MemoryService) :
    sweep.run settings service =
      (.ok (((sweep.turns settings service).map Turn.outcome).foldl SweepReport.count
          { SweepReport.empty with examined := (sweep.fetched settings service).length }),
        service.after settings (sweep.steps settings service)) := by
  have hfetch : Program.run (sweep.answer settings) (Service.overdue sweep.now sweep.batch).run
      (service, 0) = (.ok (sweep.fetched settings service), sweep.opened settings service, 1) := rfl
  obtain ⟨hreport, hlast⟩ := run_expireAll sweep settings []
    { SweepReport.empty with examined := (sweep.fetched settings service).length }
    (sweep.fetched settings service) (sweep.opened settings service, 1)
  rw [run, Sweep.run_once, hfetch, Program.goOn_ok]
  refine Prod.ext (congrArg Except.ok hreport) ?_
  rw [steps, MemoryService.after_append]
  exact hlast

variable {sweep settings} in
theorem turnsFrom_reservations (since : List MadeCall) (reservations : List Reservation)
    (state : MemoryService × Nat) :
    (sweep.turnsFrom settings since state reservations).map Turn.reservation = reservations := by
  induction reservations generalizing since state with
  | nil => rfl
  | cons reservation rest ih => exact congrArg (reservation :: ·) (ih _ _)

end ContestedSweep

end Stockroom
