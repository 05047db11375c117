/-!
# Programs that ask

A program either has its value or asks a request and goes on with the answer.
What a request means is left to whoever runs the program, so the same program
can be run against a store in memory, against a database, or step by step
between the steps of others.
-/

namespace Stockroom

inductive Program (Request : Type) (Answer : Request → Type) (Value : Type) where
  | done (value : Value)
  | ask (request : Request) (resume : Answer request → Program Request Answer Value)

namespace Program

variable {Request : Type} {Answer : Request → Type} {Value Other : Type}

def bind (program : Program Request Answer Value)
    (next : Value → Program Request Answer Other) : Program Request Answer Other :=
  match program with
  | done value => next value
  | ask request resume => ask request (fun answer => (resume answer).bind next)

instance : Monad (Program Request Answer) where
  pure := done
  bind := bind

/-- Asks one request and returns its answer. -/
def query (request : Request) : Program Request Answer (Answer request) :=
  ask request done

/-- Runs a program in a monad that can answer each of its requests. -/
def interpret {m : Type → Type} [Monad m]
    (answer : (request : Request) → m (Answer request)) :
    Program Request Answer Value → m Value
  | done value => pure value
  | ask request resume => do interpret answer (resume (← answer request))

/-- Runs a program over a state that answers each request and moves on. -/
def run {State : Type} (answer : (request : Request) → State → Answer request × State) :
    Program Request Answer Value → State → Value × State
  | done value, state => (value, state)
  | ask request resume, state =>
    run answer (resume (answer request state).1) (answer request state).2

@[simp]
theorem run_done {State : Type} (answer : (request : Request) → State → Answer request × State)
    (value : Value) (state : State) : run answer (done value) state = (value, state) := rfl

@[simp]
theorem run_ask {State : Type} (answer : (request : Request) → State → Answer request × State)
    (request : Request) (resume : Answer request → Program Request Answer Value) (state : State) :
    run answer (ask request resume) state =
      run answer (resume (answer request state).1) (answer request state).2 := rfl

theorem run_bind {State : Type} (answer : (request : Request) → State → Answer request × State)
    (program : Program Request Answer Value) (next : Value → Program Request Answer Other)
    (state : State) :
    run answer (program.bind next) state =
      run answer (next (run answer program state).1) (run answer program state).2 := by
  induction program generalizing state with
  | done value => rfl
  | ask request resume ih => exact ih _ _

end Program

end Stockroom
