import Mathlib.Data.Finset.Card
import Mathlib.Logic.Relation
import Stockroom.Proofs.Service.Dispatching
import Stockroom.Proofs.Service.Operation
import Stockroom.Proofs.SortedMap

/-!
# Commands that are delivered again

Dispatches that run concurrently on one service, request by request and in any
order, while the clocks move.  How often each of them has changed stock or a
reservation is counted beside them.  Recording a reply may fail at any time.
-/

namespace Stockroom

/-- Dispatches that run on one service, with what remains to be done of each of them. -/
structure Dispatches {count : Nat} (commands : Fin count → Command) where
  service : MemoryService
  program : Fin count → ServiceProgram (Except CallFailure Reply)
  /-- How often a caller has changed stock or a reservation. -/
  changes : Fin count → Nat

namespace Dispatches

variable {count : Nat} {commands : Fin count → Command}

/-- Nobody has asked for anything. -/
def start (settings : ServiceSettings) (commands : Fin count → Command) (service : MemoryService) :
    Dispatches commands where
  service := service
  program caller := (Dispatch.dispatch settings (commands caller)).run
  changes _ := 0

/-- Whether a request changed stock or a reservation, as its answer tells. -/
def hasChanged : (request : ServiceRequest) → request.Answer → Bool
  | .store call, answer => call.hasChanged answer
  | .aside _, _ => false

/-- A caller goes on with the answer to its request. -/
def resumed (dispatches : Dispatches commands) (caller : Fin count) (request : ServiceRequest)
    (resume : request.Answer → ServiceProgram (Except CallFailure Reply))
    (answered : request.Answer × MemoryService) : Dispatches commands where
  service := answered.2
  program := Function.update dispatches.program caller (resume answered.1)
  changes :=
    if hasChanged request answered.1 then
      Function.update dispatches.changes caller (dispatches.changes caller + 1)
    else dispatches.changes

/-- A caller goes on with the answer of the service. -/
def answered (dispatches : Dispatches commands) (caller : Fin count) (request : ServiceRequest)
    (resume : request.Answer → ServiceProgram (Except CallFailure Reply)) : Dispatches commands :=
  dispatches.resumed caller request resume (MemoryService.answer request dispatches.service)

/-- The next step of a caller; one who is done takes none. -/
def proceed (dispatches : Dispatches commands) (caller : Fin count) : Dispatches commands :=
  match dispatches.program caller with
  | .done _ => dispatches
  | .ask request resume => dispatches.answered caller request resume

/-- The step of a caller whose recording fails; any other request is answered as it is. -/
def refuse (dispatches : Dispatches commands) (caller : Fin count) (error : StockError) :
    Dispatches commands :=
  match dispatches.program caller with
  | .ask (.store (.recordProcessed command)) resume =>
    dispatches.resumed caller (.store (.recordProcessed command)) resume
      (.error error, dispatches.service)
  | _ => dispatches.proceed caller

def atReading (dispatches : Dispatches commands) (reading : ClockReading) : Dispatches commands :=
  { dispatches with service := dispatches.service.atReading reading }

/-- A caller has a request answered or its recording fails, or the clocks move. -/
inductive Step (dispatches : Dispatches commands) : Dispatches commands → Prop
  | answered (caller : Fin count) : Step dispatches (dispatches.proceed caller)
  | refused (caller : Fin count) (error : StockError) :
    Step dispatches (dispatches.refuse caller error)
  | moved (reading : ClockReading) : Step dispatches (dispatches.atReading reading)

/-- A caller has not asked for anything. -/
def HasYetToStart (settings : ServiceSettings) (dispatches : Dispatches commands)
    (caller : Fin count) : Prop :=
  dispatches.program caller = (Dispatch.dispatch settings (commands caller)).run

/-- No other delivery of a caller's command is under way. -/
def IsAlone (settings : ServiceSettings) (dispatches : Dispatches commands) (caller : Fin count) :
    Prop :=
  ∀ other ≠ caller, (commands other).idempotencyKey = (commands caller).idempotencyKey →
    dispatches.HasYetToStart settings other ∨ ∃ reply, dispatches.program other = .done reply

/-- A step in which nobody starts while the same command is under way, and no recording fails. -/
inductive SerialStep (settings : ServiceSettings) (dispatches : Dispatches commands) :
    Dispatches commands → Prop
  | answered (caller : Fin count)
    (halone : dispatches.HasYetToStart settings caller → dispatches.IsAlone settings caller) :
    SerialStep settings dispatches (dispatches.proceed caller)
  | moved (reading : ClockReading) : SerialStep settings dispatches (dispatches.atReading reading)

/-- The dispatches after callers have taken steps in some order. -/
def run (dispatches : Dispatches commands) (schedule : List (Fin count)) : Dispatches commands :=
  schedule.foldl proceed dispatches

/-- What is recorded under a key, if anything. -/
def recorded (dispatches : Dispatches commands) (key : String) : Option ProcessedCommand :=
  dispatches.service.store.processed.find? key

end Dispatches

/-! ## What is recorded -/

namespace MemoryStore

variable {store : MemoryStore} {key : String}

theorem processed_perform {α : Type} (work : UnitOfWork α) :
    (store.perform work).2.processed = store.processed := by
  have hrow (request : RowRequest) (state : MemoryStore)
      (hsame : state.processed = store.processed) :
      (answerRow request state).2.processed = store.processed := by
    cases request <;> exact hsame
  exact Program.run_keeps hrow work rfl

/-- A call changes what is recorded only by recording a reply under its key. -/
theorem find?_processed_answer (call : StoreCall) :
    (answer call store).2.processed.find? key = store.processed.find? key ∨
      ∃ command, call = .recordProcessed command ∧ command.key = key ∧
        store.processed.find? key = none ∧
        (answer call store).2.processed.find? key = some command := by
  cases call with
  | create record =>
    simp only [answer, create]
    split <;> exact .inl rfl
  | adjust _ _ _ | setThreshold _ _ _ | delete _ | reserve _ | resolve _ _ _ =>
    exact .inl (congrArg (·.find? key) (processed_perform _))
  | recordProcessed command =>
    simp only [answer, recordProcessed]
    split
    · exact .inl rfl
    · rename_i habsent
      rw [SortedMap.find?_insert]
      split
      · rename_i hkey
        refine .inr ⟨command, rfl, hkey, ?_, rfl⟩
        rw [← hkey]
        exact SortedMap.contains_eq_false_iff.1 (Bool.eq_false_iff.2 habsent)
      · exact .inl rfl
  | find _ | findMany _ | lowStock _ _ | findReservation _ | overdue _ _ | findProcessed _ =>
    exact .inl rfl

/-- After an attempt to record a reply one is recorded. -/
theorem find?_processed_record (command : ProcessedCommand) :
    (answer (.recordProcessed command) store).2.processed.find? command.key ≠ none := by
  simp only [answer, recordProcessed]
  split
  · rename_i hpresent
    intro habsent
    rw [SortedMap.contains_eq_false_iff.2 habsent] at hpresent
    cases hpresent
  · rw [SortedMap.find?_insert, if_pos rfl]
    exact Option.some_ne_none _

end MemoryStore

namespace Dispatches

variable {count : Nat} {commands : Fin count → Command} {settings : ServiceSettings}
  {dispatches next : Dispatches commands}

theorem found_answer {key : String} {processed : ProcessedCommand} (service : MemoryService)
    (request : ServiceRequest)
    (hrecorded : service.store.processed.find? key = some processed) :
    (MemoryService.answer request service).2.store.processed.find? key = some processed := by
  cases request with
  | aside request => exact hrecorded
  | store call =>
    refine ((MemoryStore.find?_processed_answer call).resolve_right ?_).trans hrecorded
    rintro ⟨_, _, _, hnone, _⟩
    rw [hrecorded] at hnone
    cases hnone

/-- What is recorded stays recorded. -/
theorem Step.recorded (hstep : dispatches.Step next) {key : String} {processed : ProcessedCommand}
    (hrecorded : dispatches.recorded key = some processed) :
    next.recorded key = some processed := by
  have hproceed (caller : Fin count) :
      (dispatches.proceed caller).recorded key = some processed := by
    rw [proceed]
    split
    · exact hrecorded
    · exact found_answer dispatches.service _ hrecorded
  cases hstep with
  | moved reading => exact hrecorded
  | answered caller => exact hproceed caller
  | refused caller error =>
    rw [refuse]
    split
    · exact hrecorded
    · exact hproceed caller

/-- A caller that is answered from what is recorded: it has changed nothing more, and will
return the recorded reply. -/
structure Replays (dispatches : Dispatches commands) (caller : Fin count)
    (processed : ProcessedCommand) (changes : Nat) : Prop where
  recorded : dispatches.recorded (commands caller).idempotencyKey = some processed
  changes : dispatches.changes caller = changes
  follows : (dispatches.program caller).Follows
    (Dispatch.replaying (commands caller).idempotencyKey processed) (fun outcome _ =>
      ∃ stamp, outcome = .ok (Dispatch.replay stamp (commands caller) processed.result)) ()

section Resumed

variable {caller other : Fin count} {request : ServiceRequest}
  {resume : request.Answer → ServiceProgram (Except CallFailure Reply)}

theorem resumed_of_ne (hne : other ≠ caller) {reply : request.Answer × MemoryService} :
    (dispatches.resumed caller request resume reply).program other = dispatches.program other ∧
      (dispatches.resumed caller request resume reply).changes other =
        dispatches.changes other := by
  refine ⟨Function.update_of_ne hne .., ?_⟩
  simp only [resumed]
  split
  · exact Function.update_of_ne hne ..
  · rfl

theorem program_answered_self :
    (dispatches.answered caller request resume).program caller =
      resume (MemoryService.answer request dispatches.service).1 :=
  Function.update_self ..

theorem answered_of_ne (hne : other ≠ caller) :
    (dispatches.answered caller request resume).program other = dispatches.program other ∧
      (dispatches.answered caller request resume).changes other = dispatches.changes other :=
  resumed_of_ne hne

theorem changes_answered (hunchanged :
    hasChanged request (MemoryService.answer request dispatches.service).1 = false) :
    (dispatches.answered caller request resume).changes = dispatches.changes := by
  rw [answered, resumed, hunchanged]
  rfl

end Resumed

theorem Replays.proceed {caller : Fin count} {processed : ProcessedCommand} {changes : Nat}
    (hreplays : dispatches.Replays caller processed changes) (stepping : Fin count) :
    (dispatches.proceed stepping).Replays caller processed changes := by
  have hrecorded := Step.recorded (.answered stepping) hreplays.recorded
  rw [Dispatches.proceed] at hrecorded ⊢
  split
  · exact hreplays
  · rename_i request resume hprogram
    rw [hprogram] at hrecorded
    by_cases hsame : caller = stepping
    · subst hsame
      have hfollows := hreplays.follows
      rw [hprogram] at hfollows
      have hunchanged : hasChanged request
          (MemoryService.answer request dispatches.service).1 = false := by
        cases request with
        | aside request => rfl
        | store call =>
          cases call with
          | findProcessed key => rfl
          | _ => exact hfollows.1.elim
      refine ⟨hrecorded, ?_, ?_⟩
      · rw [changes_answered hunchanged]
        exact hreplays.changes
      · rw [program_answered_self]
        refine hfollows.2 _ ?_
        cases request with
        | aside request => trivial
        | store call =>
          cases call with
          | findProcessed key =>
            obtain rfl : key = _ := hfollows.1
            exact congrArg Except.ok hreplays.recorded
          | _ => exact hfollows.1.elim
    · refine ⟨hrecorded, (answered_of_ne hsame).2.trans hreplays.changes, ?_⟩
      rw [(answered_of_ne hsame).1]
      exact hreplays.follows

theorem Replays.step {caller : Fin count} {processed : ProcessedCommand} {changes : Nat}
    (hreplays : dispatches.Replays caller processed changes) (hstep : dispatches.Step next) :
    next.Replays caller processed changes := by
  cases hstep with
  | moved reading => exact ⟨hreplays.recorded, hreplays.changes, hreplays.follows⟩
  | answered stepping => exact hreplays.proceed stepping
  | refused stepping error =>
    rw [refuse]
    split
    · rename_i command resume hprogram
      have hne : caller ≠ stepping := by
        rintro rfl
        have hfollows := hreplays.follows
        rw [hprogram] at hfollows
        exact hfollows.1
      refine ⟨hreplays.recorded, (resumed_of_ne hne).2.trans hreplays.changes, ?_⟩
      rw [(resumed_of_ne hne).1]
      exact hreplays.follows
    · exact hreplays.proceed stepping

/-! ## Who has yet to start -/

/-- A caller has come to a stage of its dispatch, and has changed nothing before it asked. -/
structure Follower (dispatches : Dispatches commands) (caller : Fin count)
    (stage : Dispatch.Stage) : Prop where
  follows : (dispatches.program caller).Follows
    (Dispatch.answering (commands caller).idempotencyKey) Dispatch.Settled stage
  unchanged : stage = .asking → dispatches.changes caller = 0

theorem Follower.start (settings : ServiceSettings) (commands : Fin count → Command)
    (service : MemoryService) (caller : Fin count) :
    (Dispatches.start settings commands service).Follower caller .asking :=
  ⟨(Dispatch.dispatch_conforms settings (commands caller)).run, fun _ => rfl⟩

/-- Whatever answer a caller goes on with, all callers have come to some stage. -/
theorem Follower.resumed {stepping : Fin count} {request : ServiceRequest}
    {resume : request.Answer → ServiceProgram (Except CallFailure Reply)}
    (hprogram : dispatches.program stepping = .ask request resume)
    (reply : request.Answer × MemoryService) {caller : Fin count} {stage : Dispatch.Stage}
    (hfollower : dispatches.Follower caller stage) :
    ∃ last, (dispatches.resumed stepping request resume reply).Follower caller last := by
  by_cases hsame : caller = stepping
  · subst hsame
    obtain ⟨hallowed, hnext⟩ := hprogram ▸ hfollower.follows
    refine ⟨_, ?_, fun hasking => absurd hasking (Dispatch.next_ne_asking hallowed reply.1)⟩
    change (Function.update dispatches.program caller (resume reply.1) caller).Follows _ _ _
    rw [Function.update_self]
    exact hnext reply.1 trivial
  · obtain ⟨hkept, hchanges⟩ :
        (dispatches.resumed stepping request resume reply).program caller =
            dispatches.program caller ∧
          (dispatches.resumed stepping request resume reply).changes caller =
            dispatches.changes caller :=
      resumed_of_ne hsame
    refine ⟨stage, ?_, fun hasking => ?_⟩
    · rw [hkept]
      exact hfollower.follows
    · rw [hchanges]
      exact hfollower.unchanged hasking

theorem Follower.step {caller : Fin count} {stage : Dispatch.Stage}
    (hfollower : dispatches.Follower caller stage) (hstep : dispatches.Step next) :
    ∃ last, next.Follower caller last := by
  have hproceed (stepping : Fin count) :
      ∃ last, (dispatches.proceed stepping).Follower caller last := by
    rw [proceed]
    split
    · exact ⟨stage, hfollower⟩
    · rename_i hprogram
      exact hfollower.resumed hprogram _
  cases hstep with
  | moved reading => exact ⟨stage, hfollower.follows, hfollower.unchanged⟩
  | answered stepping => exact hproceed stepping
  | refused stepping error =>
    rw [refuse]
    split
    · rename_i hprogram
      exact hfollower.resumed hprogram _
    · exact hproceed stepping

/-- Only a dispatch that has yet to look its key up begins with that. -/
theorem Follower.asking_of_start {caller : Fin count} {stage : Dispatch.Stage}
    (hfollower : dispatches.Follower caller stage)
    (hstart : dispatches.HasYetToStart settings caller) : stage = .asking := by
  have hfollows := hfollower.follows
  rw [hstart] at hfollows
  have hallowed : (Dispatch.answering (commands caller).idempotencyKey).allows stage
      (.store (.findProcessed (commands caller).idempotencyKey)) := hfollows.1
  cases stage with
  | asking => rfl
  | _ => exact hallowed.elim

/-- Whatever steps are taken, a caller that has yet to start has changed nothing. -/
theorem changes_eq_zero_of_start {service : MemoryService}
    (hpath : Relation.ReflTransGen Step (start settings commands service) dispatches)
    {caller : Fin count} (hstart : dispatches.HasYetToStart settings caller) :
    dispatches.changes caller = 0 := by
  have hfollower : ∃ stage, dispatches.Follower caller stage := by
    clear hstart
    induction hpath with
    | refl => exact ⟨_, .start settings commands service caller⟩
    | tail _ hstep ih =>
      obtain ⟨stage, hfollower⟩ := ih
      exact hfollower.step hstep
  obtain ⟨stage, hfollower⟩ := hfollower
  exact hfollower.unchanged (hfollower.asking_of_start hstart)

/-! ## Deliveries after a reply was recorded -/

theorem reachable_run (dispatches : Dispatches commands) (schedule : List (Fin count)) :
    Relation.ReflTransGen Step dispatches (dispatches.run schedule) := by
  induction schedule generalizing dispatches with
  | nil => exact .refl
  | cons caller rest ih => exact .head (.answered caller) (ih (dispatches.proceed caller))

/-- Once a reply is recorded, a delivery of the command that has yet to start changes nothing,
however the others go on, and returns the recorded reply. -/
theorem replayed_of_recorded (settings : ServiceSettings) {caller : Fin count}
    (hstart : dispatches.HasYetToStart settings caller) {processed : ProcessedCommand}
    (hrecorded : dispatches.recorded (commands caller).idempotencyKey = some processed)
    {last : Dispatches commands} (hpath : Relation.ReflTransGen Step dispatches last) :
    last.changes caller = dispatches.changes caller ∧
      ∀ outcome, last.program caller = .done outcome →
        ∃ stamp, outcome = .ok (Dispatch.replay stamp (commands caller) processed.result) := by
  have hbegins : dispatches.Replays caller processed (dispatches.changes caller) := by
    refine ⟨hrecorded, rfl, ?_⟩
    rw [hstart]
    exact (Dispatch.replay_conforms settings (commands caller) processed).run
  have hlast : last.Replays caller processed (dispatches.changes caller) := by
    induction hpath with
    | refl => exact hbegins
    | tail _ hstep ih => exact ih.step hstep
  refine ⟨hlast.changes, fun outcome hdone => ?_⟩
  have hfollows := hlast.follows
  rwa [hdone] at hfollows

/-- A command that adds five cups is delivered twice.  When recording the first reply fails, the
second delivery adds five more. -/
theorem executed_twice_of_refused :
    let moment : ClockReading := ⟨0, .epoch, .epoch⟩
    let settings : ServiceSettings := ⟨⟨900000000000⟩⟩
    let payload : AdjustPayload := ⟨"cup", "ADD", 5⟩
    let commands : Fin 2 → Command := fun delivery =>
      ⟨Uuid.ofNat delivery, Uuid.ofNat 7, .adjustStock, payload.toJson, "key", .epoch⟩
    let service := (MemoryService.start none .epoch Uuid.ofNat).after settings
      [⟨.create "cup" (some 10) none, fun _ => moment⟩]
    let begun := start settings commands service
    let refused := (begun.run (List.replicate 7 0)).refuse 0 (.database "connection closed")
    let ended := refused.run (List.replicate 8 1)
    Relation.ReflTransGen Step begun ended ∧
      (commands 0).idempotencyKey = (commands 1).idempotencyKey ∧
      ended.changes 0 = 1 ∧ ended.changes 1 = 1 := by
  intro moment settings payload commands service begun refused ended
  have hrefused : Relation.ReflTransGen Step begun refused :=
    (reachable_run begun _).tail (.refused 0 _)
  exact ⟨hrefused.trans (reachable_run refused _), rfl, by decide +kernel, by decide +kernel⟩

end Dispatches

end Stockroom
