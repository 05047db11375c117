import Stockroom.Proofs.Concurrency.Redelivery

/-!
# One delivery at a time

As long as nobody starts to dispatch a command while the same one is under
way, and no recording fails, at most one of its deliveries changes anything.
-/

namespace Stockroom.Dispatches

open Dispatch (Stage answering)

variable {count : Nat} {commands : Fin count → Command}

/-- A caller has found no reply under its key, and is not done. -/
def IsUnderway (dispatches : Dispatches commands) (caller : Fin count) (stage : Stage) : Prop :=
  (stage = .working ∨ stage = .owing) ∧
    ∃ request resume, dispatches.program caller = .ask request resume

/-- What a caller that has come to a stage has changed and has found recorded. -/
structure CallerAt (settings : ServiceSettings) (dispatches : Dispatches commands)
    (caller : Fin count) (stage : Stage) : Prop where
  follows : (dispatches.program caller).Follows (answering (commands caller).idempotencyKey)
    Dispatch.Settled stage
  starts : stage = .asking → dispatches.HasYetToStart settings caller
  changes_le : dispatches.changes caller ≤ 1
  unchanged : stage = .asking ∨ stage = .working → dispatches.changes caller = 0
  unrecorded : stage = .working → dispatches.IsUnderway caller stage →
    dispatches.recorded (commands caller).idempotencyKey = none
  recorded : stage = .finished → 0 < dispatches.changes caller →
    dispatches.recorded (commands caller).idempotencyKey ≠ none

/-- Of all deliveries of one command at most one has a property. -/
def AtMostOne (commands : Fin count → Command) (property : Fin count → Prop) : Prop :=
  ∀ first second, (commands first).idempotencyKey = (commands second).idempotencyKey →
    property first → property second → first = second

/-- The invariant of deliveries that do not overlap. -/
structure Serial (settings : ServiceSettings) (dispatches : Dispatches commands)
    (stage : Fin count → Stage) : Prop where
  caller : ∀ caller, dispatches.CallerAt settings caller (stage caller)
  alone : AtMostOne commands fun caller => dispatches.IsUnderway caller (stage caller)
  once : AtMostOne commands fun caller => 0 < dispatches.changes caller

/-- How a step of one caller looks to everyone. -/
structure Advanced (settings : ServiceSettings) (dispatches next : Dispatches commands)
    (caller : Fin count) (stage last : Stage) : Prop where
  own : next.CallerAt settings caller last
  program : ∀ other ≠ caller, next.program other = dispatches.program other
  changes : ∀ other ≠ caller, next.changes other = dispatches.changes other
  underway : next.IsUnderway caller last → dispatches.IsUnderway caller stage ∨ stage = .asking
  changed : 0 < next.changes caller →
    0 < dispatches.changes caller ∨ stage = .working ∧ dispatches.IsUnderway caller stage
  recorded : ∀ key, next.recorded key = dispatches.recorded key ∨
    key = (commands caller).idempotencyKey ∧ dispatches.IsUnderway caller stage ∧
      next.recorded key ≠ none

variable {settings : ServiceSettings} {dispatches next : Dispatches commands}

theorem IsUnderway.of_program {caller : Fin count} {stage : Stage}
    (hprogram : next.program caller = dispatches.program caller)
    (hunderway : next.IsUnderway caller stage) : dispatches.IsUnderway caller stage := by
  rwa [IsUnderway, hprogram] at hunderway

/-- Others are where they were after a step of a caller. -/
theorem CallerAt.of_advanced {caller other : Fin count} {stage last place : Stage}
    (hother : dispatches.CallerAt settings other place)
    (hadvanced : Advanced settings dispatches next caller stage last) (hne : other ≠ caller)
    (halone : (commands other).idempotencyKey = (commands caller).idempotencyKey →
      dispatches.IsUnderway other place → ¬ dispatches.IsUnderway caller stage) :
    next.CallerAt settings other place where
  follows := by
    rw [hadvanced.program other hne]
    exact hother.follows
  starts hasking := by
    rw [HasYetToStart, hadvanced.program other hne]
    exact hother.starts hasking
  changes_le := by
    rw [hadvanced.changes other hne]
    exact hother.changes_le
  unchanged hplace := by
    rw [hadvanced.changes other hne]
    exact hother.unchanged hplace
  unrecorded hworking hunderway := by
    have hbefore := hunderway.of_program (hadvanced.program other hne)
    rcases hadvanced.recorded (commands other).idempotencyKey with hsame | ⟨hkey, hcaller, _⟩
    · rw [hsame]
      exact hother.unrecorded hworking hbefore
    · exact absurd hcaller (halone hkey hbefore)
  recorded hfinished hchanged := by
    rw [hadvanced.changes other hne] at hchanged
    rcases hadvanced.recorded (commands other).idempotencyKey with hsame | ⟨_, _, hrecorded⟩
    · rw [hsame]
      exact hother.recorded hfinished hchanged
    · exact hrecorded

/-- Nothing is owed by who is done. -/
theorem CallerAt.underway_of_owing {caller : Fin count} {stage : Stage}
    (hcaller : dispatches.CallerAt settings caller stage) (howing : stage = .owing) :
    dispatches.IsUnderway caller stage := by
  refine ⟨.inr howing, ?_⟩
  cases hprogram : dispatches.program caller with
  | done reply =>
    have hfollows := hcaller.follows
    rw [hprogram] at hfollows
    exact absurd howing hfollows
  | ask request resume => exact ⟨request, resume, rfl⟩

/-- Who has changed something still is under way, or its reply is recorded. -/
theorem CallerAt.of_changed {caller : Fin count} {stage : Stage}
    (hcaller : dispatches.CallerAt settings caller stage)
    (hchanged : 0 < dispatches.changes caller) :
    dispatches.IsUnderway caller stage ∨
      dispatches.recorded (commands caller).idempotencyKey ≠ none := by
  cases hstage : stage with
  | asking | working =>
    have hnone := hcaller.unchanged (by simp [hstage])
    omega
  | owing => exact .inl (hstage ▸ hcaller.underway_of_owing hstage)
  | finished => exact .inr (hcaller.recorded hstage hchanged)

/-- The first request of a dispatch is for its key. -/
theorem CallerAt.asking_of_start {caller : Fin count} {stage : Stage}
    (hcaller : dispatches.CallerAt settings caller stage)
    (hstart : dispatches.HasYetToStart settings caller) : stage = .asking := by
  have hfollower : dispatches.Follower caller stage :=
    ⟨hcaller.follows, fun hasking => hcaller.unchanged (.inl hasking)⟩
  exact hfollower.asking_of_start hstart

theorem IsUnderway.not_idle {caller : Fin count} {stage : Stage}
    (hunderway : dispatches.IsUnderway caller stage)
    (hcaller : dispatches.CallerAt settings caller stage) :
    ¬ (dispatches.HasYetToStart settings caller ∨
      ∃ reply, dispatches.program caller = .done reply) := by
  rintro (hstart | ⟨reply, hdone⟩)
  · rcases hunderway.1 with hstage | hstage
    · rw [hcaller.asking_of_start hstart] at hstage
      cases hstage
    · rw [hcaller.asking_of_start hstart] at hstage
      cases hstage
  · obtain ⟨_, request, resume, hprogram⟩ := hunderway
    rw [hdone] at hprogram
    cases hprogram

/-- One delivery may come to have a property that no other delivery of its command has. -/
theorem AtMostOne.advanced {before after : Fin count → Prop} (hone : AtMostOne commands before)
    (caller : Fin count) (hothers : ∀ other ≠ caller, after other → before other)
    (hcaller : ∀ other ≠ caller,
      (commands other).idempotencyKey = (commands caller).idempotencyKey →
        before other → ¬ after caller) :
    AtMostOne commands after := by
  intro first second hkey hfirst hsecond
  by_cases hsame : first = caller
  · by_cases hother : second = caller
    · rw [hsame, hother]
    · subst hsame
      exact absurd hfirst (hcaller second hother hkey.symm (hothers second hother hsecond))
  · by_cases hother : second = caller
    · subst hother
      exact absurd hsecond (hcaller first hsame hkey (hothers first hsame hfirst))
    · exact hone first second hkey (hothers first hsame hfirst) (hothers second hother hsecond)

/-- A step of one caller keeps deliveries apart, if it starts alone. -/
theorem Serial.advanced {stage : Fin count → Stage} (hserial : dispatches.Serial settings stage)
    {caller : Fin count} {last : Stage}
    (hadvanced : Advanced settings dispatches next caller (stage caller) last)
    (halone : stage caller = .asking → dispatches.IsAlone settings caller) :
    next.Serial settings (Function.update stage caller last) := by
  refine ⟨fun other => ?_, hserial.alone.advanced caller ?_ ?_,
    hserial.once.advanced caller ?_ ?_⟩
  · by_cases hsame : other = caller
    · subst hsame
      rw [Function.update_self]
      exact hadvanced.own
    · rw [Function.update_of_ne hsame]
      refine (hserial.caller other).of_advanced hadvanced hsame fun hkey hother hcaller => ?_
      exact hsame (hserial.alone other caller hkey hother hcaller)
  · intro other hne hunderway
    rw [Function.update_of_ne hne] at hunderway
    exact hunderway.of_program (hadvanced.program other hne)
  · intro other hne hkey hother hunderway
    rw [Function.update_self] at hunderway
    rcases hadvanced.underway hunderway with hbefore | hasking
    · exact hne (hserial.alone other caller hkey hother hbefore)
    · exact hother.not_idle (hserial.caller other) (halone hasking other hne hkey)
  · intro other hne hchanged
    rwa [hadvanced.changes other hne] at hchanged
  · intro other hne hkey hother hchanged
    rcases hadvanced.changed hchanged with hbefore | ⟨hworking, hunderway⟩
    · exact hne (hserial.once other caller hkey hother hbefore)
    · rcases (hserial.caller other).of_changed hother with hpending | hrecorded
      · exact hne (hserial.alone other caller hkey hpending hunderway)
      · rw [hkey] at hrecorded
        exact hrecorded ((hserial.caller caller).unrecorded hworking hunderway)

/-! ## Steps of one caller -/

section Steps

variable {caller : Fin count} {stage : Stage} {request : ServiceRequest}
  {resume : request.Answer → ServiceProgram (Except CallFailure Reply)}

theorem CallerAt.follows_answered (hcaller : dispatches.CallerAt settings caller stage)
    (hprogram : dispatches.program caller = .ask request resume) :
    ((dispatches.answered caller request resume).program caller).Follows
      (answering (commands caller).idempotencyKey) Dispatch.Settled
      ((answering (commands caller).idempotencyKey).next stage request
        (MemoryService.answer request dispatches.service).1) := by
  have hfollows := hcaller.follows
  rw [hprogram] at hfollows
  rw [program_answered_self]
  exact hfollows.2 _ trivial

/-- A request that changes nothing and records nothing leaves its caller at its stage. -/
theorem CallerAt.advanced_idle (hcaller : dispatches.CallerAt settings caller stage)
    (hprogram : dispatches.program caller = .ask request resume) (hasked : stage ≠ .asking)
    (hstays : (answering (commands caller).idempotencyKey).next stage request
      (MemoryService.answer request dispatches.service).1 = stage)
    (hunchanged : hasChanged request (MemoryService.answer request dispatches.service).1 = false)
    (hrecorded : ∀ key, (dispatches.answered caller request resume).recorded key =
      dispatches.recorded key) :
    Advanced settings dispatches (dispatches.answered caller request resume) caller stage
      stage := by
  have hchanges : (dispatches.answered caller request resume).changes = dispatches.changes :=
    changes_answered hunchanged
  have hunderway (hnow : (dispatches.answered caller request resume).IsUnderway caller stage) :
      dispatches.IsUnderway caller stage := ⟨hnow.1, request, resume, hprogram⟩
  refine ⟨⟨?_, fun hasking => absurd hasking hasked, ?_, ?_, ?_, ?_⟩,
    fun _ hne => (answered_of_ne hne).1, fun _ hne => (answered_of_ne hne).2,
    fun hnow => .inl (hunderway hnow), fun hchanged => .inl ?_, fun key => .inl (hrecorded key)⟩
  · have hfollows := hcaller.follows_answered hprogram
    rwa [hstays] at hfollows
  · rw [hchanges]
    exact hcaller.changes_le
  · rw [hchanges]
    exact hcaller.unchanged
  · intro hworking hnow
    rw [hrecorded]
    exact hcaller.unrecorded hworking (hunderway hnow)
  · rw [hchanges, hrecorded]
    exact hcaller.recorded
  · rwa [hchanges] at hchanged

/-- Looking a key up starts the work, unless a reply is found. -/
theorem CallerAt.advanced_looked (hcaller : dispatches.CallerAt settings caller .asking)
    {key : String} {resume : (StoreCall.findProcessed key).Answer →
      ServiceProgram (Except CallFailure Reply)}
    (hkey : key = (commands caller).idempotencyKey)
    (hprogram : dispatches.program caller = .ask (.store (.findProcessed key)) resume) :
    ∃ last, Advanced settings dispatches
      (dispatches.answered caller (.store (.findProcessed key)) resume) caller .asking last := by
  have hchanges : (dispatches.answered caller (.store (.findProcessed key)) resume).changes =
      dispatches.changes := changes_answered rfl
  have hnone : (dispatches.answered caller (.store (.findProcessed key)) resume).changes caller =
      0 := by
    rw [hchanges]
    exact hcaller.unchanged (.inl rfl)
  have hfollows := hcaller.follows_answered hprogram
  let found : (StoreCall.findProcessed key).Answer := .ok (dispatches.recorded key)
  let last := (answering (commands caller).idempotencyKey).next .asking
    (.store (.findProcessed key)) found
  have hlast : last = .working ∧ dispatches.recorded key = none ∨ last = .finished := by
    simp only [last, found]
    cases dispatches.recorded key with
    | none => exact .inl ⟨rfl, rfl⟩
    | some processed => exact .inr rfl
  refine ⟨last, ⟨hfollows, fun hasking => ?_, ?_, fun _ => hnone, fun hworking _ => ?_,
      fun _ hchanged => ?_⟩,
    fun _ hne => (answered_of_ne hne).1, fun _ hne => (answered_of_ne hne).2,
    fun _ => .inr rfl, fun hchanged => ?_, fun _ => .inl rfl⟩
  · rw [hasking] at hlast
    rcases hlast with ⟨heq, _⟩ | heq <;> cases heq
  · rw [hnone]
    exact Nat.zero_le 1
  · rw [hworking] at hlast
    rcases hlast with ⟨_, habsent⟩ | heq
    · rw [hkey] at habsent
      exact habsent
    · cases heq
  · rw [hnone] at hchanged
    cases hchanged
  · rw [hnone] at hchanged
    cases hchanged

/-- A change is made by a caller that has not made one, and has to be recorded. -/
theorem CallerAt.advanced_changed (hcaller : dispatches.CallerAt settings caller .working)
    {call : StoreCall} {resume : call.Answer → ServiceProgram (Except CallFailure Reply)}
    (hprogram : dispatches.program caller = .ask (.store call) resume)
    (hother : ∀ command, call ≠ .recordProcessed command)
    (hchanged : call.hasChanged (MemoryStore.answer call dispatches.service.store).1 = true)
    (hrecorded : ∀ key, (dispatches.answered caller (.store call) resume).recorded key =
      dispatches.recorded key) :
    Advanced settings dispatches (dispatches.answered caller (.store call) resume) caller .working
      .owing := by
  have hunderway : dispatches.IsUnderway caller .working :=
    ⟨.inl rfl, .store call, resume, hprogram⟩
  have hchanges : (dispatches.answered caller (.store call) resume).changes caller = 1 := by
    have hnone := hcaller.unchanged (.inr rfl)
    have hcounted : (dispatches.answered caller (.store call) resume).changes =
        Function.update dispatches.changes caller (dispatches.changes caller + 1) := if_pos hchanged
    rw [hcounted, Function.update_self, hnone]
  have hnext : (answering (commands caller).idempotencyKey).next .working (.store call)
      (MemoryStore.answer call dispatches.service.store).1 = .owing := by
    rw [Dispatch.next_working _ _ hother, hchanged]
    rfl
  have hfollows := hcaller.follows_answered hprogram
  refine ⟨⟨?_, nofun, hchanges.le, ?_, nofun, nofun⟩,
    fun _ hne => (answered_of_ne hne).1, fun _ hne => (answered_of_ne hne).2,
    fun _ => .inl hunderway, fun _ => .inr ⟨rfl, hunderway⟩, fun key => .inl (hrecorded key)⟩
  · rwa [show (MemoryService.answer (.store call) dispatches.service).1 =
      (MemoryStore.answer call dispatches.service.store).1 from rfl, hnext] at hfollows
  · rintro (hstage | hstage) <;> cases hstage

/-- After an attempt to record its reply a caller has nothing left to do with the store. -/
theorem CallerAt.advanced_recorded (hcaller : dispatches.CallerAt settings caller stage)
    (hpending : stage = .working ∨ stage = .owing) {command : ProcessedCommand}
    {resume : (StoreCall.recordProcessed command).Answer →
      ServiceProgram (Except CallFailure Reply)}
    (hkey : command.key = (commands caller).idempotencyKey)
    (hprogram : dispatches.program caller = .ask (.store (.recordProcessed command)) resume) :
    Advanced settings dispatches
      (dispatches.answered caller (.store (.recordProcessed command)) resume) caller stage
      .finished := by
  have hunderway : dispatches.IsUnderway caller stage :=
      ⟨hpending, .store (.recordProcessed command), resume, hprogram⟩
  have hchanges : (dispatches.answered caller (.store (.recordProcessed command)) resume).changes =
      dispatches.changes := changes_answered rfl
  have hown : (dispatches.answered caller (.store (.recordProcessed command)) resume).recorded
      (commands caller).idempotencyKey ≠ none := by
    rw [← hkey]
    exact MemoryStore.find?_processed_record command
  have hfollows := hcaller.follows_answered hprogram
  refine ⟨⟨?_, nofun, ?_, nofun, nofun, fun _ _ => hown⟩,
    fun _ hne => (answered_of_ne hne).1, fun _ hne => (answered_of_ne hne).2,
    fun _ => .inl hunderway, fun hchanged => .inl ?_, fun key => ?_⟩
  · rcases hpending with rfl | rfl <;> exact hfollows
  · rw [hchanges]
    exact hcaller.changes_le
  · rwa [hchanges] at hchanged
  · refine (MemoryStore.find?_processed_answer (.recordProcessed command)).imp_right ?_
    rintro ⟨recorded, heq, rfl, _⟩
    cases heq
    exact ⟨hkey, hunderway, hkey ▸ hown⟩

theorem recorded_answered {call : StoreCall}
    {resume : call.Answer → ServiceProgram (Except CallFailure Reply)}
    (hother : ∀ command, call ≠ .recordProcessed command) (key : String) :
    (dispatches.answered caller (.store call) resume).recorded key = dispatches.recorded key := by
  refine (MemoryStore.find?_processed_answer call).resolve_right ?_
  rintro ⟨command, heq, _⟩
  exact hother command heq

/-- A call of a caller at work changes something, or leaves it at work. -/
theorem CallerAt.advanced_worked (hcaller : dispatches.CallerAt settings caller .working)
    {call : StoreCall} {resume : call.Answer → ServiceProgram (Except CallFailure Reply)}
    (hprogram : dispatches.program caller = .ask (.store call) resume)
    (hother : ∀ command, call ≠ .recordProcessed command) :
    ∃ last, Advanced settings dispatches (dispatches.answered caller (.store call) resume) caller
      .working last := by
  have hnext := Dispatch.next_working (commands caller).idempotencyKey
    (MemoryStore.answer call dispatches.service.store).1 hother
  cases hchanged : call.hasChanged (MemoryStore.answer call dispatches.service.store).1 with
  | true =>
    exact ⟨.owing, hcaller.advanced_changed hprogram hother hchanged (recorded_answered hother)⟩
  | false =>
    rw [hchanged] at hnext
    exact ⟨.working, hcaller.advanced_idle hprogram nofun hnext hchanged
      (recorded_answered hother)⟩

/-- However a caller is answered, its step looks to everyone as the stages have it. -/
theorem CallerAt.advanced_answered (hcaller : dispatches.CallerAt settings caller stage)
    (hprogram : dispatches.program caller = .ask request resume) :
    ∃ last, Advanced settings dispatches (dispatches.answered caller request resume) caller stage
      last := by
  have hfollows := hcaller.follows
  rw [hprogram] at hfollows
  have hallowed := hfollows.1
  cases request with
  | aside request =>
    have hasked : stage ≠ .asking := by
      rintro rfl
      exact hallowed
    exact ⟨stage, hcaller.advanced_idle hprogram hasked (Dispatch.next_aside stage request _) rfl
      fun _ => rfl⟩
  | store call =>
    cases stage with
    | asking =>
      cases call with
      | findProcessed key => exact hcaller.advanced_looked hallowed hprogram
      | _ => exact hallowed.elim
    | working =>
      cases call with
      | findProcessed key => exact hallowed.elim
      | recordProcessed command =>
        exact ⟨.finished, hcaller.advanced_recorded (.inl rfl) hallowed hprogram⟩
      | _ => exact hcaller.advanced_worked hprogram fun _ => nofun
    | owing =>
      cases call with
      | recordProcessed command =>
        exact ⟨.finished, hcaller.advanced_recorded (.inr rfl) hallowed hprogram⟩
      | _ => exact hallowed.elim
    | finished => exact hallowed.elim

end Steps

/-! ## Runs -/

theorem Serial.start (settings : ServiceSettings) (commands : Fin count → Command)
    (service : MemoryService) :
    (Dispatches.start settings commands service).Serial settings fun _ => .asking where
  caller caller := {
    follows := (Dispatch.dispatch_conforms settings (commands caller)).run
    starts := fun _ => rfl
    changes_le := Nat.zero_le 1
    unchanged := fun _ => rfl
    unrecorded := nofun
    recorded := nofun }
  alone _ _ _ hfirst := by rcases hfirst.1 with hstage | hstage <;> cases hstage
  once _ _ _ hfirst := by cases hfirst

/-- A serial step keeps the invariant. -/
theorem Serial.step {stage : Fin count → Stage} (hserial : dispatches.Serial settings stage)
    (hstep : dispatches.SerialStep settings next) : ∃ last, next.Serial settings last := by
  cases hstep with
  | moved reading =>
    exact ⟨stage, fun caller => { hserial.caller caller with }, hserial.alone, hserial.once⟩
  | answered caller halone =>
    rw [proceed]
    split
    · exact ⟨stage, hserial⟩
    · rename_i request resume hprogram
      obtain ⟨last, hadvanced⟩ := (hserial.caller caller).advanced_answered hprogram
      refine ⟨_, hserial.advanced hadvanced fun hasking => halone ?_⟩
      exact (hserial.caller caller).starts hasking

theorem Serial.of_reachable {stage : Fin count → Stage}
    (hserial : dispatches.Serial settings stage)
    (hpath : Relation.ReflTransGen (SerialStep settings) dispatches next) :
    ∃ last, next.Serial settings last := by
  induction hpath with
  | refl => exact ⟨stage, hserial⟩
  | tail _ hstep ih =>
    obtain ⟨middle, hmiddle⟩ := ih
    exact hmiddle.step hstep

/-- As long as deliveries of one command do not overlap and recording works, at most one of them
changes stock or a reservation, and does so once.  Whether they overlap or recording fails or not,
one that has yet to start when a reply is recorded changes nothing, whatever happens from then on,
and returns the recorded reply. -/
theorem executed_once (settings : ServiceSettings) (commands : Fin count → Command)
    (service : MemoryService) :
    (∀ dispatches : Dispatches commands,
      Relation.ReflTransGen (SerialStep settings) (start settings commands service) dispatches →
        (∀ first second, (commands first).idempotencyKey = (commands second).idempotencyKey →
          0 < dispatches.changes first → 0 < dispatches.changes second → first = second) ∧
        ∀ caller, dispatches.changes caller ≤ 1) ∧
    ∀ dispatches : Dispatches commands,
      Relation.ReflTransGen Step (start settings commands service) dispatches →
        ∀ caller processed, dispatches.HasYetToStart settings caller →
          dispatches.recorded (commands caller).idempotencyKey = some processed →
          ∀ last, Relation.ReflTransGen Step dispatches last →
            last.changes caller = 0 ∧ ∀ outcome, last.program caller = .done outcome →
              ∃ stamp, outcome = .ok (Dispatch.replay stamp (commands caller) processed.result) := by
  constructor
  · intro dispatches hpath
    obtain ⟨stage, hserial⟩ := (Serial.start settings commands service).of_reachable hpath
    exact ⟨hserial.once, fun caller => (hserial.caller caller).changes_le⟩
  · intro dispatches hpath caller processed hstart hrecorded last hlast
    obtain ⟨hchanges, hreplayed⟩ := replayed_of_recorded settings hstart hrecorded hlast
    exact ⟨hchanges.trans (changes_eq_zero_of_start hpath hstart), hreplayed⟩

theorem program_run_of_ne {caller other : Fin count} (hne : other ≠ caller) (steps : Nat) :
    (dispatches.run (List.replicate steps caller)).program other = dispatches.program other := by
  induction steps generalizing dispatches with
  | zero => rfl
  | succ steps ih =>
    have hrest : ((dispatches.proceed caller).run (List.replicate steps caller)).program other =
        (dispatches.proceed caller).program other := ih
    refine hrest.trans ?_
    rw [proceed]
    split
    · rfl
    · exact (answered_of_ne hne).1

/-- A caller that is alone takes all its steps serially. -/
theorem serial_run {caller : Fin count} (halone : dispatches.IsAlone settings caller)
    (steps : Nat) :
    Relation.ReflTransGen (SerialStep settings) dispatches
      (dispatches.run (List.replicate steps caller)) := by
  induction steps generalizing dispatches with
  | zero => exact .refl
  | succ steps ih =>
    refine .head (.answered caller fun _ => halone) (ih fun other hne hkey => ?_)
    have hsame : (dispatches.proceed caller).program other = dispatches.program other :=
      program_run_of_ne hne 1
    rw [HasYetToStart, hsame]
    exact halone other hne hkey

/-- A command that adds five cups is delivered again after its reply has been recorded. -/
theorem executed_once_of_two_deliveries :
    let moment : ClockReading := ⟨0, .epoch, .epoch⟩
    let settings : ServiceSettings := ⟨⟨900000000000⟩⟩
    let payload : AdjustPayload := ⟨"cup", "ADD", 5⟩
    let commands : Fin 2 → Command := fun delivery =>
      ⟨Uuid.ofNat delivery, Uuid.ofNat 7, .adjustStock, payload.toJson, "key", .epoch⟩
    let service := (MemoryService.start none .epoch Uuid.ofNat).after settings
      [⟨.create "cup" (some 10) none, fun _ => moment⟩]
    let begun := start settings commands service
    let first := begun.run (List.replicate 8 0)
    let ended := first.run (List.replicate 3 1)
    Relation.ReflTransGen (SerialStep settings) begun first ∧
      first.changes 0 = 1 ∧ (∀ caller, 0 < first.changes caller → caller = 0) ∧
      ∃ processed, first.recorded "key" = some processed ∧
        ended.changes 1 = 0 ∧ ∃ outcome stamp, ended.program 1 = .done outcome ∧
          outcome = .ok (Dispatch.replay stamp (commands 1) processed.result) := by
  intro moment settings payload commands service begun first ended
  have hothers : begun.IsAlone settings 0 := fun _ _ _ => .inl rfl
  have hpath := serial_run hothers 8
  have hchanged : first.changes 0 = 1 := by decide +kernel
  have hrecorded : (first.recorded "key").isSome = true := by decide +kernel
  have hdone : (ended.program 1).value?.isSome = true := by decide +kernel
  obtain ⟨processed, hprocessed⟩ := Option.isSome_iff_exists.1 hrecorded
  obtain ⟨outcome, hvalue⟩ := Option.isSome_iff_exists.1 hdone
  have hended := Program.value?_eq_some_iff.1 hvalue
  have hstart : first.HasYetToStart settings 1 := program_run_of_ne (by decide) 8
  obtain ⟨hserial, hreplays⟩ := executed_once settings commands service
  obtain ⟨honce, _⟩ := hserial first hpath
  obtain ⟨hchanges, hreplayed⟩ := hreplays first (reachable_run begun _) 1 processed hstart
    hprocessed ended (reachable_run first _)
  obtain ⟨stamp, houtcome⟩ := hreplayed outcome hended
  refine ⟨hpath, hchanged, fun caller hcaller => honce caller 0 rfl hcaller ?_, processed,
    hprocessed, hchanges, outcome, stamp, hended, houtcome⟩
  rw [hchanged]
  exact Nat.zero_lt_one

/-- Two deliveries that both look their key up before either has recorded its reply both add
their cups. -/
theorem executed_twice_of_overlap :
    let moment : ClockReading := ⟨0, .epoch, .epoch⟩
    let settings : ServiceSettings := ⟨⟨900000000000⟩⟩
    let payload : AdjustPayload := ⟨"cup", "ADD", 5⟩
    let commands : Fin 2 → Command := fun delivery =>
      ⟨Uuid.ofNat delivery, Uuid.ofNat 7, .adjustStock, payload.toJson, "key", .epoch⟩
    let service := (MemoryService.start none .epoch Uuid.ofNat).after settings
      [⟨.create "cup" (some 10) none, fun _ => moment⟩]
    let ended := (start settings commands service).run ([0, 1] ++ List.replicate 7 0 ++
      List.replicate 7 1)
    ended.changes 0 = 1 ∧ ended.changes 1 = 1 := by
  decide +kernel

end Stockroom.Dispatches
