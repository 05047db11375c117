import Stockroom.Dispatch
import Stockroom.Proofs.Service.Occasion

/-!
# What a delivery comes to

A delivery that finds a reply under its key stamps it anew.  Any other carries
its command out, stamps a reply and records it, unless the reply only reports
failing storage.
-/

namespace Stockroom

open Program (goOn goOn_ok goOn_error)

namespace Dispatch

/-- The reply to a command that has been carried out. -/
def replyTo (stamp : Reply.Stamp) (command : Command) : Except StockError Json → Reply
  | .ok result => Reply.success stamp command.id command.sagaId (some result)
  | .error error => failure stamp command error

/-- What is recorded of a reply. -/
def record (command : Command) (reply : Reply) (now : Instant) : ProcessedCommand where
  key := command.idempotencyKey
  commandId := command.id
  result := some reply.toJson
  processedAt := now

end Dispatch

namespace MemoryService

variable {α β : Type} {occasion : Occasion}

/-- The stamp that a reply gets. -/
def stampOf (occasion : Occasion) (state : MemoryService × Nat) : Reply.Stamp :=
  ⟨state.1.around.supply state.1.around.drawn, (occasion.readings (state.2 + 1)).wallClock⟩

/-- The service after a reply has been stamped. -/
def stamped (occasion : Occasion) (state : MemoryService × Nat) : MemoryService × Nat :=
  let around := (state.1.around.atReading (occasion.readings state.2))
  (⟨state.1.store, { around with drawn := around.drawn + 1 }.atReading
    (occasion.readings (state.2 + 1))⟩, state.2 + 2)

/-- A settled call goes on with the failure of the stock as a value. -/
theorem serve_settle_bind (call : ServiceCall α) (next : Except StockError α → ServiceCall β)
    (state : MemoryService × Nat) :
    serve occasion (Dispatch.settle call >>= next) state =
      match serve occasion call state with
      | (.ok value, after) => serve occasion (next (.ok value)) after
      | (.error (.stock error), after) => serve occasion (next (.error error)) after
      | (.error .deadlineOutOfRange, after) => (.error .deadlineOutOfRange, after) := by
  rw [serve_bind, Dispatch.settle, serve_bind, serve_lift]
  change goOn (goOn (.ok (serve occasion call state).1, (serve occasion call state).2) _) _ = _
  rcases serve occasion call state with ⟨(⟨error⟩ | ⟨⟩) | value, after⟩ <;> rfl

/-- Recording is the same whether it succeeds or not, and it is never turned down. -/
theorem serve_remember (command : Command) (reply : Reply) (occasion : Occasion)
    (state : MemoryService × Nat) :
    ∃ around, serve occasion (Dispatch.remember command reply) state =
      (.ok (), ⟨(state.1.store.recordProcessed
        (Dispatch.record command reply (occasion.readings state.2).clock)).2, around⟩,
        state.2 + 2) := by
  refine ⟨(state.1.around.atReading (occasion.readings state.2)).atReading
    (occasion.readings (state.2 + 1)), ?_⟩
  rw [Dispatch.remember, serve_aside_bind]
  dsimp only
  rw [serve_bind, serve_lift, goOn_ok]
  change (_, serve occasion (ServiceCall.store _) _ |>.2) = _
  rw [serve_store, MemoryStore.answerUnless_of_isBookkeeping _ rfl]
  rfl

/-- The service after the look-up of a key, which changes nothing. -/
def looked (occasion : Occasion) (state : MemoryService × Nat) : MemoryService × Nat :=
  (⟨state.1.store, state.1.around.atReading (occasion.readings state.2)⟩, state.2 + 1)

theorem serve_findProcessed (key : String) (state : MemoryService × Nat) :
    serve occasion (ServiceCall.store (.findProcessed key)) state =
      (.ok (state.1.store.processed.find? key), looked occasion state) := by
  rw [serve_store, MemoryStore.answerUnless_of_isBookkeeping _ rfl]
  rfl

variable (settings : ServiceSettings) (command : Command) {state : MemoryService × Nat}

/-- A redelivered command is answered from the record. -/
theorem serve_dispatch_recorded {processed : ProcessedCommand}
    (hrecorded : state.1.store.processed.find? command.idempotencyKey = some processed) :
    serve occasion (Dispatch.dispatch settings command) state =
      (.ok (Dispatch.replay (stampOf occasion (looked occasion state)) command processed.result),
        stamped occasion (looked occasion state)) := by
  rw [Dispatch.dispatch, serve_settle_bind, serve_findProcessed, hrecorded]
  rfl

/-- A command whose key has no record is carried out. -/
theorem serve_dispatch_new
    (hnew : state.1.store.processed.find? command.idempotencyKey = none) :
    serve occasion (Dispatch.dispatch settings command) state =
      serve occasion (Dispatch.answerNew settings command) (looked occasion state) := by
  rw [Dispatch.dispatch, serve_settle_bind, serve_findProcessed, hnew]

/-- The store after a command has been answered: its reply is recorded, unless the reply only
reports failing storage. -/
def settledStore (store : MemoryStore) (command : Command) (reply : Reply) (now : Instant) :
    MemoryStore :=
  if Dispatch.isRemembered reply then
    (store.recordProcessed (Dispatch.record command reply now)).2
  else store

/-- A command that has been carried out is answered with its outcome. -/
theorem serve_answerNew (outcome : Except StockError Json) {after : MemoryService × Nat}
    (hexecuted : serve occasion (Dispatch.execute settings command) state =
      (outcome.mapError .stock, after)) :
    let reply := Dispatch.replyTo (stampOf occasion after) command outcome
    ∃ last : MemoryService × Nat,
      serve occasion (Dispatch.answerNew settings command) state = (.ok reply, last) ∧
        last.1.store = settledStore after.1.store command reply
          (occasion.readings (after.2 + 2)).clock := by
  intro reply
  have hsettled : serve occasion (Dispatch.answerNew settings command) state =
      serve occasion (do
        if Dispatch.isRemembered reply then Dispatch.remember command reply
        return reply) (stamped occasion after) := by
    rw [Dispatch.answerNew, serve_settle_bind, hexecuted]
    cases outcome <;> rfl
  rw [hsettled, settledStore]
  cases hremembered : Dispatch.isRemembered reply with
  | true =>
    obtain ⟨around, hrecorded⟩ := serve_remember command reply occasion
      (stamped occasion after)
    simp only [if_true]
    rw [serve_bind, hrecorded]
    exact ⟨_, rfl, rfl⟩
  | false => exact ⟨_, rfl, rfl⟩

/-- A reservation whose deadline lies beyond the calendar is not answered at all. -/
theorem serve_answerNew_broken {after : MemoryService × Nat}
    (hexecuted : serve occasion (Dispatch.execute settings command) state =
      (.error .deadlineOutOfRange, after)) :
    serve occasion (Dispatch.answerNew settings command) state =
      (.error .deadlineOutOfRange, after) := by
  rw [Dispatch.answerNew, serve_settle_bind, hexecuted]

end MemoryService

end Stockroom
