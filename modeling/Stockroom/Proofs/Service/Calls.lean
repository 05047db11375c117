import Stockroom.Proofs.Service.Effects
import Stockroom.Proofs.Service.Issued

/-!
# Runs as single calls

A sweep is the look-up of what is overdue and, for each of it, one call that
expires it.  So a run with sweeps is a run of single calls, each of which asks
the store at most once for a change, and what is to be known of every call of
a run can be said of these.
-/

namespace Stockroom

/-! ## The calls of a sweep -/

namespace MemoryService

variable {α : Type}

/-- Requests that were counted before only shift the readings. -/
theorem run_answerTimed_add (readings : Nat → ClockReading) (start : Nat)
    (program : ServiceProgram α) (service : MemoryService) (count : Nat) :
    program.run (answerTimed readings) (service, start + count) =
      let ended := program.run (answerTimed fun index => readings (start + index)) (service, count)
      (ended.1, ended.2.1, start + ended.2.2) := by
  induction program generalizing service count with
  | done value => rfl
  | ask request resume ih => exact ih _ _ (count + 1)

end MemoryService

/-- The calls that expire reservations one after another, each when the one before has ended. -/
def Sweep.expiries (now : Instant) (readings : Nat → ClockReading) :
    MemoryService × Nat → List Reservation → List Step
  | _, [] => []
  | state, reservation :: rest =>
    ⟨.expire reservation.id now, fun index => readings (state.2 + index)⟩ ::
      expiries now readings
        ((Service.expire reservation.id now).run.run (MemoryService.answerTimed readings) state).2
        rest

/-- The single calls that an operation consists of. -/
def Step.calls (settings : ServiceSettings) (service : MemoryService) : Step → List Step
  | ⟨.sweep now batch, readings⟩ =>
    let fetch : Step := ⟨.overdue now batch, readings⟩
    fetch :: Sweep.expiries now readings ((fetch.perform settings service).2, 1)
      (service.store.overdue now batch)
  | step => [step]

namespace MemoryService

variable (settings : ServiceSettings)

theorem after_append (service : MemoryService) (earlier later : List Step) :
    service.after settings (earlier ++ later) =
      (service.after settings earlier).after settings later := by
  induction earlier generalizing service with
  | nil => rfl
  | cons step rest ih => exact ih _

theorem drawsFresh_append {service : MemoryService} {earlier later : List Step} :
    service.DrawsFresh settings (earlier ++ later) ↔
      service.DrawsFresh settings earlier ∧
        (service.after settings earlier).DrawsFresh settings later := by
  induction earlier generalizing service with
  | nil => exact (true_and _).to_iff.symm
  | cons step rest ih => exact (and_congr_right fun _ => ih).trans and_assoc.symm

/-- Whether the id that comes next is free before every reservation of a sequence. -/
def findsFree (service : MemoryService) : List Step → Bool
  | [] => true
  | step :: rest =>
    (match step.operation with
      | .reserve _ _ =>
        (service.store.reservations.find? (service.around.supply service.around.drawn)).isNone
      | _ => true) && findsFree (step.perform settings service).2 rest

theorem drawsFresh_of_findsFree {service : MemoryService} {steps : List Step}
    (hfree : service.findsFree settings steps = true) : service.DrawsFresh settings steps := by
  induction steps generalizing service with
  | nil => trivial
  | cons step rest ih =>
    obtain ⟨hstep, hrest⟩ := Bool.and_eq_true_iff.1 hfree
    refine ⟨?_, ih hrest⟩
    rcases step with ⟨operation, readings⟩
    cases operation with
    | reserve orderId lines => exact fun _ _ => Option.isNone_iff_eq_none.1 hstep
    | _ => trivial

theorem perform_expire (readings : Nat → ClockReading) (state : MemoryService × Nat) (id : Uuid)
    (now : Instant) :
    (Service.expire id now).run.run (answerTimed readings) state =
      let ended := (Service.expire id now).run.run
        (answerTimed fun index => readings (state.2 + index)) (state.1, 0)
      (ended.1, ended.2.1, state.2 + ended.2.2) :=
  run_answerTimed_add readings state.2 (Service.expire id now).run state.1 0

theorem run_expireAll_cons (readings : Nat → ClockReading) (now : Instant) (report : SweepReport)
    (reservation : Reservation) (rest : List Reservation) (state : MemoryService × Nat) :
    (Sweep.expireAll now report (reservation :: rest)).run (answerTimed readings) state =
      let ended := (Service.expire reservation.id now).run.run (answerTimed readings) state
      (Sweep.expireAll now (report.count ended.1) rest).run (answerTimed readings) ended.2 :=
  Program.run_bind (answerTimed readings) (Service.expire reservation.id now).run _ state

/-- Expiring reservations in a sweep is calling for each of them. -/
theorem after_expiries (now : Instant) (readings : Nat → ClockReading) (report : SweepReport)
    (reservations : List Reservation) (state : MemoryService × Nat) :
    state.1.after settings (Sweep.expiries now readings state reservations) =
      ((Sweep.expireAll now report reservations).run (answerTimed readings) state).2.1 := by
  induction reservations generalizing report state with
  | nil => rfl
  | cons reservation rest ih =>
    have hstep : (Step.perform settings
        ⟨.expire reservation.id now, fun index => readings (state.2 + index)⟩ state.1).2 =
        ((Service.expire reservation.id now).run.run (answerTimed readings) state).2.1 := by
      rw [perform_expire]
      rfl
    rw [run_expireAll_cons, Sweep.expiries, after, hstep]
    exact ih _ _

/-- A sweep leaves behind what its look-up and the calls after it leave behind. -/
theorem perform_sweep (service : MemoryService) (now : Instant) (batch : Nat)
    (readings : Nat → ClockReading) :
    let overdue := service.store.overdue now batch
    let fetch : Step := ⟨.overdue now batch, readings⟩
    (Step.perform settings ⟨.sweep now batch, readings⟩ service).2 =
      ((Sweep.expireAll now { SweepReport.empty with examined := overdue.length } overdue).run
        (answerTimed readings) ((fetch.perform settings service).2, 1)).2.1 := by
  intro overdue fetch
  let report : SweepReport := { SweepReport.empty with examined := overdue.length }
  let finish : SweepReport → ServiceProgram (Except CallFailure SweepReport) :=
    fun report => .done (.ok report)
  have hbind := Program.run_bind (answerTimed readings) (Sweep.expireAll now report overdue) finish
    ((fetch.perform settings service).2, 1)
  exact congrArg (fun ended => ended.2.1) hbind

theorem after_stepCalls (service : MemoryService) (step : Step) :
    service.after settings (step.calls settings service) = (step.perform settings service).2 := by
  rcases step with ⟨operation, readings⟩
  cases operation with
  | sweep now batch =>
    rw [perform_sweep]
    exact after_expiries settings now readings _ _
      ((Step.perform settings ⟨.overdue now batch, readings⟩ service).2, 1)
  | _ => rfl

/-- The single calls of a run. -/
def calls (service : MemoryService) : List Step → List Step
  | [] => []
  | step :: rest => step.calls settings service ++ calls (step.perform settings service).2 rest

/-- A run ends where its calls end. -/
theorem after_calls (service : MemoryService) (steps : List Step) :
    service.after settings (service.calls settings steps) = service.after settings steps := by
  induction steps generalizing service with
  | nil => rfl
  | cons step rest ih =>
    rw [calls, after_append, after_stepCalls]
    exact ih _

theorem drawsFresh_expiries (now : Instant) (readings : Nat → ClockReading)
    (reservations : List Reservation) (service : MemoryService) (state : MemoryService × Nat) :
    service.DrawsFresh settings (Sweep.expiries now readings state reservations) := by
  induction reservations generalizing service state with
  | nil => trivial
  | cons reservation rest ih => exact ⟨trivial, ih _ _⟩

theorem drawsFresh_calls {service : MemoryService} {steps : List Step}
    (hfresh : service.DrawsFresh settings steps) :
    service.DrawsFresh settings (service.calls settings steps) := by
  induction steps generalizing service with
  | nil => trivial
  | cons step rest ih =>
    rw [calls, drawsFresh_append, after_stepCalls]
    refine ⟨?_, ih hfresh.2⟩
    rcases step with ⟨operation, readings⟩
    cases operation with
    | sweep now batch => exact ⟨trivial, drawsFresh_expiries settings now readings _ _ _⟩
    | _ => exact ⟨hfresh.1, trivial⟩

end MemoryService

/-! ## Calls with what they met -/

/-- A call that asks the store at most once for a change. -/
def Step.IsSingle (step : Step) : Prop :=
  match step.operation with
  | .sweep _ _ => False
  | _ => True

/-- The reservation whose resolution an operation asks for. -/
def Operation.resolves? : Operation → Option Uuid
  | .confirm id | .release id | .expire id _ => some id
  | _ => none

/-- A step leaves the store as one issued call does, which resolves nothing else than it asks
for. -/
def Step.ChangesBy (settings : ServiceSettings) (service : MemoryService) (step : Step)
    (call : StoreCall) : Prop :=
  call.IsIssued service.store ∧
    (∀ id resolution now, call = .resolve id resolution now →
      step.operation.resolves? = some id) ∧
    (step.perform settings service).2.store = (MemoryStore.answer call service.store).2

/-- A single call leaves the store as it was, or as one issued call of the store leaves it. -/
theorem Step.store_cases (settings : ServiceSettings) {service : MemoryService} {step : Step}
    (hsingle : step.IsSingle) (hfresh : step.DrawsFresh service) :
    (step.perform settings service).2.store = service.store ∨
      ∃ call, step.ChangesBy settings service call := by
  have hresolve {id : Uuid} {resolution : Resolution} {now : Instant}
      (hresolves : step.operation.resolves? = some id)
      (hends : (step.perform settings service).2.store =
        (MemoryStore.answer (.resolve id resolution now) service.store).2) :
      ∃ call, step.ChangesBy settings service call :=
    ⟨.resolve id resolution now, trivial,
      fun _ _ _ heq => (StoreCall.resolve.inj heq).1 ▸ hresolves, hends⟩
  rcases step with ⟨operation, readings⟩
  cases operation with
  | create text initial threshold =>
    rcases Step.create_cases settings service readings text initial threshold with
      ⟨_, _, hends⟩ | ⟨_, _, hends⟩
    · exact .inl hends.store
    · exact .inr ⟨.create _, ⟨_, _, _, _, _, rfl⟩, fun _ _ _ => nofun, hends.store⟩
  | adjust text kind quantity =>
    rcases Step.adjust_cases settings service readings text kind quantity with
      ⟨_, _, hends⟩ | ⟨_, _, hends⟩
    · exact .inl hends.store
    · exact .inr ⟨.adjust _ _ _, trivial, fun _ _ _ => nofun, hends.store⟩
  | setThreshold text threshold =>
    rcases Step.setThreshold_cases settings service readings text threshold with
      ⟨_, _, hends⟩ | ⟨_, _, hends⟩
    · exact .inl hends.store
    · exact .inr ⟨.setThreshold _ _ _, trivial, fun _ _ _ => nofun, hends.store⟩
  | delete text =>
    rcases Step.delete_cases settings service readings text with
      ⟨_, _, hends⟩ | ⟨_, _, hends⟩
    · exact .inl hends.store
    · exact .inr ⟨.delete _, trivial, fun _ _ _ => nofun, hends.store⟩
  | reserve orderId lines =>
    rcases Step.reserve_cases settings service readings orderId lines with
      ⟨_, _, hends⟩ | ⟨checked, hchecked, hends⟩
    · exact .inl hends.store
    · split at hends
      · exact .inl hends.store
      · exact .inl hends.store
      · rename_i reservation hmake
        obtain ⟨hnew, hid⟩ := Reservation.isNew_of_make hmake
        have hfree := hfresh checked hchecked
        rw [← hid] at hfree
        exact .inr ⟨.reserve _, ⟨hnew, hfree⟩, fun _ _ _ => nofun, hends.store⟩
  | confirm id => exact .inr (hresolve rfl (Step.confirm_ends _ _ _ id).store)
  | release id => exact .inr (hresolve rfl (Step.release_ends _ _ _ id).store)
  | expire id now => exact .inr (hresolve rfl (Step.expire_ends _ _ _ id now).store)
  | sweep now batch => exact hsingle.elim
  | get _ | check _ _ | bulkCheck _ | lowStock _ _ | getReservation _ | overdue _ _ =>
    exact .inl (Step.store_of_isLook settings service trivial)

/-- A call of a run, with the service that it met. -/
structure MadeCall where
  met : MemoryService
  step : Step

namespace MadeCall

/-- The service that a call left. -/
def left (settings : ServiceSettings) (made : MadeCall) : MemoryService :=
  (made.step.perform settings made.met).2

/-- A call that changes a reachable store at most once, and draws a fresh id if it draws any. -/
structure Sound (made : MadeCall) : Prop where
  single : made.step.IsSingle
  fresh : made.step.DrawsFresh made.met
  reachable : made.met.store.Reachable

theorem Sound.reachable_left (settings : ServiceSettings) {made : MadeCall} (hsound : made.Sound) :
    (made.left settings).store.Reachable :=
  MemoryService.reachable_perform settings hsound.fresh hsound.reachable

end MadeCall

namespace MemoryService

variable (settings : ServiceSettings)

/-- The calls of a run in their order, each with the service that it met. -/
def made (service : MemoryService) : List Step → List MadeCall
  | [] => []
  | step :: rest => ⟨service, step⟩ :: made (step.perform settings service).2 rest

theorem single_expiries (now : Instant) (readings : Nat → ClockReading)
    (reservations : List Reservation) (state : MemoryService × Nat) :
    ∀ step ∈ Sweep.expiries now readings state reservations, step.IsSingle := by
  induction reservations generalizing state with
  | nil => exact fun _ => nofun
  | cons reservation rest ih => exact List.forall_mem_cons.2 ⟨trivial, ih _⟩

theorem single_calls (service : MemoryService) (steps : List Step) :
    ∀ step ∈ service.calls settings steps, step.IsSingle := by
  induction steps generalizing service with
  | nil => exact fun _ => nofun
  | cons step rest ih =>
    refine List.forall_mem_append.2 ⟨?_, ih _⟩
    rcases step with ⟨operation, readings⟩
    cases operation with
    | sweep now batch =>
      exact List.forall_mem_cons.2 ⟨trivial, single_expiries now readings _ _⟩
    | _ => exact List.forall_mem_singleton.2 trivial

/-- A run without sweeps consists of its own steps. -/
theorem calls_of_single (service : MemoryService) {steps : List Step}
    (hsingle : ∀ step ∈ steps, step.IsSingle) : service.calls settings steps = steps := by
  induction steps generalizing service with
  | nil => rfl
  | cons step rest ih =>
    obtain ⟨hfirst, hrest⟩ := List.forall_mem_cons.1 hsingle
    have hcalls : step.calls settings service = [step] := by
      rcases step with ⟨operation, readings⟩
      cases operation with
      | sweep now batch => exact hfirst.elim
      | _ => rfl
    rw [calls, hcalls, ih _ hrest]
    rfl

/-- A run of single calls from a reachable store, in which every id that is drawn is fresh. -/
structure SingleRun (service : MemoryService) (steps : List Step) : Prop where
  single : ∀ step ∈ steps, step.IsSingle
  fresh : service.DrawsFresh settings steps
  reachable : service.store.Reachable

/-- The calls of a run from the empty store. -/
theorem singleRun_calls (lifetime : Option Nat) (clock : Instant) (supply : Nat → Uuid)
    {steps : List Step} (hfresh : (start lifetime clock supply).DrawsFresh settings steps) :
    let service := start lifetime clock supply
    service.SingleRun settings (service.calls settings steps) :=
  ⟨single_calls settings _ steps, drawsFresh_calls settings hfresh, .empty⟩

namespace SingleRun

variable {settings} {service : MemoryService} {steps : List Step}

theorem first {step : Step} {rest : List Step} (hrun : service.SingleRun settings (step :: rest)) :
    MadeCall.Sound ⟨service, step⟩ :=
  ⟨hrun.single step List.mem_cons_self, hrun.fresh.1, hrun.reachable⟩

theorem rest {step : Step} {rest : List Step} (hrun : service.SingleRun settings (step :: rest)) :
    (step.perform settings service).2.SingleRun settings rest :=
  ⟨fun other hother => hrun.single other (List.mem_cons_of_mem _ hother), hrun.fresh.2,
    hrun.first.reachable_left settings⟩

/-- What every call keeps, holds before and after every call of a run. -/
theorem keeps {kept : MemoryService → Prop}
    (hcall : ∀ made : MadeCall, made.Sound → kept made.met → kept (made.left settings))
    (hrun : service.SingleRun settings steps) (hkept : kept service) :
    ∀ one ∈ service.made settings steps,
      one.Sound ∧ kept one.met ∧ kept (one.left settings) := by
  induction steps generalizing service with
  | nil => exact fun _ => nofun
  | cons step rest ih =>
    have hnext := hcall ⟨service, step⟩ hrun.first hkept
    exact List.forall_mem_cons.2 ⟨⟨hrun.first, hkept, hnext⟩, ih hrun.rest hnext⟩

/-- The calls after one of a run are a run from what it left. -/
theorem split {earlier later : List MadeCall} {one : MadeCall}
    (hrun : service.SingleRun settings steps)
    (hmade : service.made settings steps = earlier ++ one :: later) :
    one.Sound ∧ ∃ rest, later = (one.left settings).made settings rest ∧
      (one.left settings).SingleRun settings rest := by
  induction earlier generalizing service steps with
  | nil =>
    cases steps with
    | nil => cases hmade
    | cons step rest =>
      obtain ⟨rfl, rfl⟩ := List.cons.inj hmade
      exact ⟨hrun.first, rest, rfl, hrun.rest⟩
  | cons before others ih =>
    cases steps with
    | nil => cases hmade
    | cons step rest => exact ih hrun.rest (List.cons.inj hmade).2

end SingleRun

end MemoryService

end Stockroom
