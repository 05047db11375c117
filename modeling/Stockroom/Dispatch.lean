import Stockroom.Service
import Stockroom.Wire.Command
import Stockroom.Wire.Reservation
import Stockroom.Wire.Stock

/-!
# Dispatching commands

A command is carried out once per idempotency key.  Its reply is recorded
under the key, and a redelivered command is answered from the record.  A reply
that only reports failing storage is not recorded, so the command can be
tried again.
-/

namespace Stockroom

def Outcome.toResult (outcome : Outcome) : Json :=
  .ofMembers [
    ("reservation_id", outcome.reservation.id.toJson),
    ("status", outcome.reservation.status.toJson),
    ("applied", .bool outcome.wasApplied)]

namespace Dispatch

def payload {α : Type} (decode : Decoder α) (command : Command) : ServiceCall α :=
  match decode .ofValue (JsonSource.ofJson command.payload) with
  | .ok value => return value
  | .error error => Service.refuse (.invalidPayload command.kind.word error.message)

/-- Carries out what a command asks for. -/
def execute (settings : ServiceSettings) (command : Command) : ServiceCall Json :=
  match command.kind with
  | .reserveStock => do
    let order ← payload ReservePayload.decoder command
    return (← Service.reserve settings order.orderId order.lines).toJson
  | .confirmReservation => do
    let target ← payload ReservationPayload.decoder command
    return (← Service.confirm target.reservation).toResult
  | .releaseReservation => do
    let target ← payload ReservationPayload.decoder command
    return (← Service.release target.reservation).toResult
  | .adjustStock => do
    let order ← payload AdjustPayload.decoder command
    return (← Service.adjust order.product order.kind order.quantity).toJson
  | .checkStock => do
    let order ← payload CheckPayload.decoder command
    return .array ((← Service.bulkCheck order.lines).map Availability.toJson)

/-- The id and the time that the next reply carries. -/
def stamp : ServiceCall Reply.Stamp := do
  let id ← ServiceCall.aside .freshId
  return ⟨id, ← ServiceCall.aside .wallClock⟩

def failure (stamp : Reply.Stamp) (command : Command) (error : StockError) : Reply :=
  (Reply.failed stamp command.id command.sagaId error.message).withErrorKind error.kind.word

/-- The recorded reply, if what is recorded is one; any other value is the result of a success. -/
def replay (stamp : Reply.Stamp) (command : Command) (recorded : Option Json) : Reply :=
  match recorded.map (fun value => Reply.decoder .ofValue (JsonSource.ofJson value)) with
  | some (.ok reply) => reply.replayedFor stamp command
  | _ => Reply.success stamp command.id command.sagaId recorded

/-- Records a reply.  Failing to do so is not the command's failure. -/
def remember (command : Command) (reply : Reply) : ServiceCall Unit := do
  let now ← ServiceCall.aside .now
  let recorded : ServiceProgram _ := (ServiceCall.store (.recordProcessed
    { key := command.idempotencyKey
      commandId := command.id
      result := some reply.toJson
      processedAt := now })).run
  let _ ← ExceptT.lift recorded
  return

/-- Whether a reply is recorded under the key of its command. -/
def isRemembered (reply : Reply) : Bool :=
  reply.errorKind != some FailureKind.storageFailure.word

/-- Runs a call and keeps a failure of the stock as a value. -/
def settle {α : Type} (call : ServiceCall α) : ServiceCall (Except StockError α) := do
  let program : ServiceProgram (Except CallFailure α) := call.run
  match ← ExceptT.lift program with
  | .ok value => return .ok value
  | .error (.stock error) => return .error error
  | .error .deadlineOutOfRange => throw .deadlineOutOfRange

def answerNew (settings : ServiceSettings) (command : Command) : ServiceCall Reply := do
  let outcome ← settle (execute settings command)
  let stamp ← stamp
  let reply := match outcome with
    | .ok result => Reply.success stamp command.id command.sagaId (some result)
    | .error error => failure stamp command error
  if isRemembered reply then remember command reply
  return reply

/-- Answers a command, from the record if its key has one. -/
def dispatch (settings : ServiceSettings) (command : Command) : ServiceCall Reply := do
  match ← settle (ServiceCall.store (.findProcessed command.idempotencyKey)) with
  | .ok (some processed) => return replay (← stamp) command processed.result
  | .ok none => answerNew settings command
  | .error error => return failure (← stamp) command error

end Dispatch

end Stockroom
