import Stockroom.Program

/-!
# Following a protocol

A program asks its requests in some order.  A protocol says which requests may
be asked next, given what has been asked and answered so far.  Whatever
answers the requests, a program that follows a protocol keeps every relation
between the protocol and the answering state that single requests keep.
-/

namespace Stockroom

/-- Which requests may be asked, in the light of those that were. -/
structure Protocol (Request : Type) (Answer : Request → Type) (Stage : Type) where
  allows : Stage → Request → Prop
  expects : Stage → (request : Request) → Answer request → Prop
  next : Stage → (request : Request) → Answer request → Stage

/-- Two protocols at once. -/
def Protocol.both {Request : Type} {Answer : Request → Type} {Stage Place : Type}
    (first : Protocol Request Answer Stage) (second : Protocol Request Answer Place) :
    Protocol Request Answer (Stage × Place) where
  allows place request := first.allows place.1 request ∧ second.allows place.2 request
  expects place request answer :=
    first.expects place.1 request answer ∧ second.expects place.2 request answer
  next place request answer := (first.next place.1 request answer, second.next place.2 request answer)

namespace Program

variable {Request : Type} {Answer : Request → Type} {Value Other Stage State Error : Type}

/-- From a stage on, a program asks only what the protocol allows, and whenever it is done, its
value and the stage it has come to satisfy `post`. -/
def Follows (protocol : Protocol Request Answer Stage) (post : Value → Stage → Prop) :
    Program Request Answer Value → Stage → Prop
  | done value, stage => post value stage
  | ask request resume, stage =>
    protocol.allows stage request ∧ ∀ answer, protocol.expects stage request answer →
      Follows protocol post (resume answer) (protocol.next stage request answer)

variable {protocol : Protocol Request Answer Stage}

@[simp]
theorem follows_done {post : Value → Stage → Prop} {value : Value} {stage : Stage} :
    (done value : Program Request Answer Value).Follows protocol post stage ↔
      post value stage := Iff.rfl

@[simp]
theorem follows_ask {post : Value → Stage → Prop} {request : Request}
    {resume : Answer request → Program Request Answer Value} {stage : Stage} :
    (ask request resume).Follows protocol post stage ↔
      protocol.allows stage request ∧ ∀ answer, protocol.expects stage request answer →
        (resume answer).Follows protocol post (protocol.next stage request answer) := Iff.rfl

theorem Follows.mono {post weaker : Value → Stage → Prop}
    {program : Program Request Answer Value} {stage : Stage}
    (hfollows : program.Follows protocol post stage)
    (hweaker : ∀ value stage, post value stage → weaker value stage) :
    program.Follows protocol weaker stage := by
  induction program generalizing stage with
  | done value => exact hweaker value stage hfollows
  | ask request resume ih =>
    exact ⟨hfollows.1, fun answer hexpected => ih answer (hfollows.2 answer hexpected)⟩

@[simp]
theorem follows_bind {post : Other → Stage → Prop} (program : Program Request Answer Value)
    (next : Value → Program Request Answer Other) (stage : Stage) :
    (program.bind next).Follows protocol post stage ↔
      program.Follows protocol (fun value stage => (next value).Follows protocol post stage)
        stage := by
  induction program generalizing stage with
  | done value => exact Iff.rfl
  | ask request resume ih =>
    simp only [bind, follows_ask]
    exact and_congr_right fun _ => forall_congr' fun answer =>
      imp_congr_right fun _ => ih answer _

/-- What single requests keep, a program that follows the protocol keeps. -/
theorem Follows.run {answer : (request : Request) → State → Answer request × State}
    {related : Stage → State → Prop}
    (hstep : ∀ stage state request, related stage state → protocol.allows stage request →
      protocol.expects stage request (answer request state).1 ∧
        related (protocol.next stage request (answer request state).1) (answer request state).2)
    {post : Value → Stage → Prop} {program : Program Request Answer Value} {stage : Stage}
    {state : State} (hfollows : program.Follows protocol post stage)
    (hrelated : related stage state) :
    ∃ last, post (program.run answer state).1 last ∧ related last (program.run answer state).2 := by
  induction program generalizing stage state with
  | done value => exact ⟨stage, hfollows, hrelated⟩
  | ask request resume ih =>
    obtain ⟨hexpected, hnext⟩ := hstep stage state request hrelated hfollows.1
    exact ih _ (hfollows.2 _ hexpected) hnext

/-- What every single answer keeps, a run keeps. -/
theorem run_keeps {answer : (request : Request) → State → Answer request × State}
    {kept : State → Prop} (hstep : ∀ request state, kept state → kept (answer request state).2)
    (program : Program Request Answer Value) {state : State} (hstate : kept state) :
    kept (program.run answer state).2 := by
  induction program generalizing state with
  | done value => exact hstate
  | ask request resume ih => exact ih _ (hstep request state hstate)

/-- A program whose requests are answered by programs runs as these do, one after another. -/
theorem run_interpret {Inner : Type} {InnerAnswer : Inner → Type}
    (answer : (request : Inner) → State → InnerAnswer request × State)
    (inner : (request : Request) → Program Inner InnerAnswer (Answer request))
    (program : Program Request Answer Value) (state : State) :
    (program.interpret inner).run answer state =
      program.run (fun request state => (inner request).run answer state) state := by
  induction program generalizing state with
  | done value => rfl
  | ask request resume ih =>
    refine (run_bind answer (inner request) _ state).trans ?_
    exact ih _ _

/-- Answered in two ways, a program does the same, as long as allowed requests are answered alike
by related states.  They may rest on what is known of the second state in the end, if it was so
before each of its answers. -/
theorem Follows.lockstep {Twin : Type}
    (answer : (request : Request) → State → Answer request × State)
    (reply : (request : Request) → Twin → Answer request × Twin)
    (related : Stage → State → Twin → Prop) (known : Twin → Prop)
    (hknown : ∀ request twin, known (reply request twin).2 → known twin)
    (hstep : ∀ stage state twin request, related stage state twin →
      protocol.allows stage request → known (reply request twin).2 →
        (reply request twin).1 = (answer request state).1 ∧
        protocol.expects stage request (answer request state).1 ∧
        related (protocol.next stage request (answer request state).1)
          (answer request state).2 (reply request twin).2)
    {post : Value → Stage → Prop} {program : Program Request Answer Value} {stage : Stage}
    {state : State} {twin : Twin} (hfollows : program.Follows protocol post stage)
    (hrelated : related stage state twin) (hend : known (program.run reply twin).2) :
    (program.run reply twin).1 = (program.run answer state).1 ∧
      ∃ last, post (program.run answer state).1 last ∧
        related last (program.run answer state).2 (program.run reply twin).2 := by
  induction program generalizing stage state twin with
  | done value => exact ⟨rfl, stage, hfollows, hrelated⟩
  | ask request resume ih =>
    have hanswered : known (reply request twin).2 := by
      have hstays (request : Request) (twin : Twin) (hunknown : ¬ known twin) :
          ¬ known (reply request twin).2 :=
        fun hafter => hunknown (hknown request twin hafter)
      refine Classical.byContradiction fun hunknown => ?_
      exact @run_keeps _ _ _ _ reply (¬ known ·) hstays (resume (reply request twin).1) _ hunknown
        hend
    obtain ⟨hsame, hexpected, hnext⟩ := hstep stage state twin request hrelated hfollows.1 hanswered
    rw [run_ask, hsame] at hend ⊢
    exact ih _ (hfollows.2 _ hexpected) hnext hend

/-- A program that keeps to one protocol keeps to another one as well, as long as this one allows
what the first allows and stays aligned with it. -/
theorem Follows.along {Place : Type} {second : Protocol Request Answer Place}
    (aligned : Stage → Place → Prop)
    (hstep : ∀ stage place request, aligned stage place → protocol.allows stage request →
      second.allows place request ∧ ∀ answer, second.expects place request answer →
        protocol.expects stage request answer ∧
          aligned (protocol.next stage request answer) (second.next place request answer))
    {post : Value → Stage → Prop} {program : Program Request Answer Value} {stage : Stage}
    {place : Place} (hfollows : program.Follows protocol post stage)
    (haligned : aligned stage place) :
    program.Follows second (fun value last => ∃ stage, post value stage ∧ aligned stage last)
      place := by
  induction program generalizing stage place with
  | done value => exact ⟨stage, hfollows, haligned⟩
  | ask request resume ih =>
    obtain ⟨hallowed, hnext⟩ := hstep stage place request haligned hfollows.1
    refine ⟨hallowed, fun answer hexpected => ?_⟩
    obtain ⟨hanswer, hlast⟩ := hnext answer hexpected
    exact ih answer (hfollows.2 answer hanswer) hlast

/-- A program that keeps to two protocols keeps to both at once. -/
theorem Follows.both {Place : Type} {second : Protocol Request Answer Place}
    {post : Value → Stage → Prop} {after : Value → Place → Prop}
    {program : Program Request Answer Value} {stage : Stage} {place : Place}
    (hfirst : program.Follows protocol post stage) (hsecond : program.Follows second after place) :
    program.Follows (protocol.both second)
      (fun value last => post value last.1 ∧ after value last.2) (stage, place) := by
  induction program generalizing stage place with
  | done value => exact ⟨hfirst, hsecond⟩
  | ask request resume ih =>
    refine ⟨⟨hfirst.1, hsecond.1⟩, fun answer hexpected => ?_⟩
    exact ih answer (hfirst.2 answer hexpected.1) (hsecond.2 answer hexpected.2)

/-- A program whose requests are answered by programs keeps to a protocol, as long as these keep to
it and stay aligned with the protocol of the requests. -/
theorem Follows.interpret {Inner Place : Type} {InnerAnswer : Inner → Type}
    {inner : Protocol Inner InnerAnswer Place}
    (answer : (request : Request) → Program Inner InnerAnswer (Answer request))
    (aligned : Stage → Place → Prop)
    (hanswer : ∀ stage place request, aligned stage place → protocol.allows stage request →
      (answer request).Follows inner (fun answered last => protocol.expects stage request answered ∧
        aligned (protocol.next stage request answered) last) place)
    {post : Value → Stage → Prop} {program : Program Request Answer Value} {stage : Stage}
    {place : Place} (hfollows : program.Follows protocol post stage)
    (haligned : aligned stage place) :
    (program.interpret answer).Follows inner
      (fun value last => ∃ stage, post value stage ∧ aligned stage last) place := by
  induction program generalizing stage place with
  | done value => exact ⟨stage, hfollows, haligned⟩
  | ask request resume ih =>
    refine (follows_bind (answer request) _ place).2 ?_
    refine (hanswer stage place request haligned hfollows.1).mono fun answered last hanswered => ?_
    exact ih answered (hfollows.2 answered hanswered.1) hanswered.2

/-- The value of a program that is done. -/
def value? : Program Request Answer Value → Option Value
  | done value => some value
  | ask _ _ => none

theorem value?_eq_some_iff {program : Program Request Answer Value} {value : Value} :
    program.value? = some value ↔ program = done value := by
  cases program with
  | done found =>
    rw [value?, Option.some.injEq, done.injEq]
  | ask request resume => exact ⟨nofun, nofun⟩

/-! ## Programs that may fail -/

/-- Goes on after a success, in the state that it left. -/
def goOn (result : Except Error Value × State)
    (next : Value → State → Except Error Other × State) : Except Error Other × State :=
  match result with
  | (.ok value, state) => next value state
  | (.error error, state) => (.error error, state)

@[simp]
theorem goOn_ok (value : Value) (state : State)
    (next : Value → State → Except Error Other × State) :
    goOn (.ok value, state) next = next value state := rfl

@[simp]
theorem goOn_error (error : Error) (state : State)
    (next : Value → State → Except Error Other × State) :
    goOn (.error error, state) next = (.error error, state) := rfl

theorem run_exceptT_bind (answer : (request : Request) → State → Answer request × State)
    (program : ExceptT Error (Program Request Answer) Value)
    (next : Value → ExceptT Error (Program Request Answer) Other) (state : State) :
    Program.run answer (program >>= next).run state =
      goOn (Program.run answer program.run state) fun value after =>
        Program.run answer (next value).run after := by
  refine (run_bind answer program.run _ state).trans ?_
  rcases Program.run answer program.run state with ⟨_ | _, after⟩ <;> rfl

/-- A program that may fail follows a protocol, and however it ends it satisfies `post`. -/
structure Conforms (protocol : Protocol Request Answer Stage)
    (post : Except Error Value → Stage → Prop) (call : ExceptT Error (Program Request Answer) Value)
    (stage : Stage) : Prop where
  run : Follows protocol post call.run stage

namespace Conforms

variable {post : Except Error Other → Stage → Prop} {stage : Stage}

theorem pure {value : Other} (hpost : post (.ok value) stage) :
    Conforms protocol post (pure value) stage := ⟨hpost⟩

theorem throw {error : Error} (hpost : post (.error error) stage) :
    Conforms protocol post (throw error) stage := ⟨hpost⟩

/-- What comes after a call starts where the call has ended, unless it has failed. -/
theorem bind {middle : Except Error Value → Stage → Prop}
    {call : ExceptT Error (Program Request Answer) Value}
    {next : Value → ExceptT Error (Program Request Answer) Other}
    (hcall : Conforms protocol middle call stage)
    (hnext : ∀ value stage, middle (.ok value) stage → Conforms protocol post (next value) stage)
    (hfailed : ∀ error stage, middle (.error error) stage → post (.error error) stage) :
    Conforms protocol post (call >>= next) stage := by
  refine ⟨(follows_bind call.run _ stage).2 ?_⟩
  refine hcall.run.mono fun outcome stage hmiddle => ?_
  cases outcome with
  | ok value => exact (hnext value stage hmiddle).run
  | error error => exact hfailed error stage hmiddle

end Conforms

/-- Where a program that may fail succeeds from a state of which `before` holds, `after` holds of
its value and of the state that it leaves. -/
def Secures (answer : (request : Request) → State → Answer request × State)
    (before : State → Prop) (call : ExceptT Error (Program Request Answer) Value)
    (after : Value → State → Prop) : Prop :=
  ∀ state value last, before state → Program.run answer call.run state = (.ok value, last) →
    after value last

namespace Secures

variable {answer : (request : Request) → State → Answer request × State}
  {before : State → Prop} {call : ExceptT Error (Program Request Answer) Value}
  {next : Value → ExceptT Error (Program Request Answer) Other}

theorem pure {after : Value → State → Prop} {value : Value}
    (hafter : ∀ state, before state → after value state) :
    Secures answer before (Pure.pure value : ExceptT Error (Program Request Answer) Value)
      after := by
  intro state found last hbefore hrun
  cases hrun
  exact hafter state hbefore

theorem throw {after : Value → State → Prop} {error : Error} :
    Secures answer before (throw error : ExceptT Error (Program Request Answer) Value) after := by
  intro state value last hbefore hrun
  cases hrun

theorem bind {middle : Value → State → Prop} {after : Other → State → Prop}
    (hcall : Secures answer before call middle)
    (hnext : ∀ value, Secures answer (middle value) (next value) after) :
    Secures answer before (call >>= next) after := by
  intro state value last hbefore hrun
  rw [run_exceptT_bind] at hrun
  rcases hfirst : Program.run answer call.run state with ⟨error | found, between⟩
  · rw [hfirst] at hrun
    cases hrun
  · rw [hfirst] at hrun
    exact hnext found between value last (hcall state found between hbefore hfirst) hrun

theorem mono {after weaker : Value → State → Prop} (hcall : Secures answer before call after)
    (hweaker : ∀ value state, after value state → weaker value state) :
    Secures answer before call weaker :=
  fun state value last hbefore hrun => hweaker value last (hcall state value last hbefore hrun)

/-- What has a result without asking goes on if the result is no failure. -/
theorem result_bind {result : Except Error Value} {after : Other → State → Prop}
    (hnext : ∀ value, result = .ok value → Secures answer before (next value) after) :
    Secures answer before (ExceptT.mk (Program.done result) >>= next) after := by
  cases result with
  | error error => exact @throw _ _ _ _ _ answer before after error
  | ok value => exact hnext value rfl

end Secures

end Program

end Stockroom
