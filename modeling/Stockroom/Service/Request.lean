import Stockroom.Cache
import Stockroom.Program
import Stockroom.Store.Call

/-!
# Requests of the service

The service is a program over a store, a cache, two clocks and a supply of
fresh ids.  Each of its steps is one request, so it can be run alone or step
by step between the steps of others.
-/

namespace Stockroom

/-- What the service asks of everything but the store. -/
inductive LocalRequest where
  | cached (product : ProductId)
  | generation (product : ProductId)
  | remember (product : ProductId) (record : Option StockRecord) (generation : UInt64)
  | forget (product : ProductId)
  | now
  | wallClock
  | freshId

abbrev LocalRequest.Answer : LocalRequest → Type
  | cached _ => Option (Option StockRecord)
  | generation _ => UInt64
  | remember _ _ _ | forget _ => Unit
  | now | wallClock => Instant
  | freshId => Uuid

inductive ServiceRequest where
  | store (call : StoreCall)
  | aside (request : LocalRequest)

abbrev ServiceRequest.Answer : ServiceRequest → Type
  | store call => call.Answer
  | aside request => request.Answer

/-- Why a service call has no answer: it failed, or the deadline that it would set for a
reservation lies beyond the calendar. -/
inductive CallFailure where
  | stock (error : StockError)
  | deadlineOutOfRange

abbrev ServiceProgram := Program ServiceRequest ServiceRequest.Answer

abbrev ServiceCall := ExceptT CallFailure ServiceProgram

namespace ServiceCall

def store (call : StoreCall) : ServiceCall call.Value :=
  let program : ServiceProgram call.Answer := Program.query (ServiceRequest.store call)
  ExceptT.mk (do return (← program).mapError .stock)

def aside (request : LocalRequest) : ServiceCall request.Answer :=
  let program : ServiceProgram request.Answer := Program.query (ServiceRequest.aside request)
  ExceptT.lift program

end ServiceCall

end Stockroom
