import Stockroom.Proofs.Program
import Stockroom.Proofs.Service.Operation

/-!
# Calls while storage may fail

A call of the service that runs on its own, while the clocks move between its
requests and the store turns some of them down.  A request that is turned down
changes nothing.  The store always answers what is asked about processed
commands.
-/

namespace Stockroom

open Program (goOn)

/-- Whether a call reads or writes the record of processed commands. -/
def StoreCall.isBookkeeping : StoreCall → Bool
  | findProcessed _ | recordProcessed _ => true
  | _ => false

namespace MemoryStore

/-- Answers a call, unless it is turned down. -/
def answerUnless (failure : Option StockError) (call : StoreCall) (store : MemoryStore) :
    call.Answer × MemoryStore :=
  match failure with
  | none => answer call store
  | some error => if call.isBookkeeping then answer call store else (.error error, store)

theorem answerUnless_of_isBookkeeping (failure : Option StockError) {call : StoreCall}
    (hbookkeeping : call.isBookkeeping = true) (store : MemoryStore) :
    answerUnless failure call store = answer call store := by
  cases failure with
  | none => rfl
  | some error => exact if_pos hbookkeeping

theorem answerUnless_cases (failure : Option StockError) (call : StoreCall) (store : MemoryStore) :
    answerUnless failure call store = answer call store ∨
      ∃ error, answerUnless failure call store = (.error error, store) := by
  cases failure with
  | none => exact .inl rfl
  | some error =>
    rw [answerUnless]
    split
    · exact .inl rfl
    · exact .inr ⟨error, rfl⟩

end MemoryStore

/-- What a call meets at each of its requests: what the clocks show, and why the store turns the
request down if it does. -/
structure Occasion where
  readings : Nat → ClockReading
  failures : Nat → Option StockError

/-- Nothing is turned down. -/
def Occasion.calm (readings : Nat → ClockReading) : Occasion := ⟨readings, fun _ => none⟩

namespace MemoryService

variable {α β : Type}

/-- Answers a request after setting the clocks, if it is not turned down; the second part of the
state counts requests. -/
def answerOn (occasion : Occasion) (request : ServiceRequest) (state : MemoryService × Nat) :
    request.Answer × MemoryService × Nat :=
  match request with
  | .aside request => answerTimed occasion.readings (.aside request) state
  | .store call =>
    let (answer, store) :=
      MemoryStore.answerUnless (occasion.failures state.2) call state.1.store
    (answer, ⟨store, state.1.around.atReading (occasion.readings state.2)⟩, state.2 + 1)

/-- Runs a call on an occasion. -/
def serve (occasion : Occasion) (call : ServiceCall α) (state : MemoryService × Nat) :
    Except CallFailure α × MemoryService × Nat :=
  Program.run (answerOn occasion) call.run state

theorem answerOn_calm (readings : Nat → ClockReading) :
    answerOn (.calm readings) = answerTimed readings := by
  funext request state
  cases request <;> rfl

/-- What a call of the service comes to on an occasion, and the service after it. -/
def performOn (occasion : Occasion) (call : ServiceCall α) (service : MemoryService) :
    Except CallFailure α × MemoryService :=
  let ended := serve occasion call (service, 0)
  (ended.1, ended.2.1)

/-- Where nothing is turned down, an operation does what it does in a sequence of operations. -/
theorem performOn_calm (settings : ServiceSettings) (step : Step) (service : MemoryService) :
    performOn (.calm step.readings) (step.operation.call settings) service =
      step.perform settings service := by
  rw [performOn, serve, answerOn_calm]
  rfl

variable {occasion : Occasion}

theorem serve_bind (call : ServiceCall α) (next : α → ServiceCall β)
    (state : MemoryService × Nat) :
    serve occasion (call >>= next) state =
      goOn (serve occasion call state) fun value after => serve occasion (next value) after :=
  Program.run_exceptT_bind (answerOn occasion) call next state

theorem serve_aside_bind (request : LocalRequest) (next : request.Answer → ServiceCall β)
    (state : MemoryService × Nat) :
    serve occasion (ServiceCall.aside request >>= next) state =
      let answered :=
        Surroundings.answer request (state.1.around.atReading (occasion.readings state.2))
      serve occasion (next answered.1) (⟨state.1.store, answered.2⟩, state.2 + 1) := rfl

theorem serve_store (call : StoreCall) (state : MemoryService × Nat) :
    serve occasion (ServiceCall.store call) state =
      ((MemoryStore.answerUnless (occasion.failures state.2) call state.1.store).1.mapError .stock,
        ⟨(MemoryStore.answerUnless (occasion.failures state.2) call state.1.store).2,
          state.1.around.atReading (occasion.readings state.2)⟩, state.2 + 1) := rfl

/-- A part of a call that cannot fail ends with its value. -/
theorem serve_lift (program : ServiceProgram α) (state : MemoryService × Nat) :
    serve occasion (ExceptT.lift program) state =
      (.ok (Program.run (answerOn occasion) program state).1,
        (Program.run (answerOn occasion) program state).2) := by
  let finish : α → ServiceProgram (Except CallFailure α) := fun value => .done (.ok value)
  exact Program.run_bind (answerOn occasion) program finish state

end MemoryService

end Stockroom
