import Stockroom.Adjustment
import Stockroom.Json.Value
import Stockroom.Reservation
import Stockroom.StockError
import Stockroom.Store.Page

/-!
# Calls of a store

Everything that is asked of a store of records, reservations and processed
commands, each call with the type of its answer.  A call that fails leaves the
store as it was.
-/

namespace Stockroom

/-- What became of a reservation that was asked to be resolved. -/
structure Outcome where
  transition : Transition
  reservation : Reservation
deriving DecidableEq

def Outcome.wasApplied (outcome : Outcome) : Bool :=
  outcome.transition == .applied

/-- A command that has been answered, with the answer as it was stored. -/
structure ProcessedCommand where
  key : String
  commandId : Uuid
  result : Option Json
  processedAt : Instant

inductive StoreCall where
  | create (record : StockRecord)
  | find (product : ProductId)
  | findMany (products : List ProductId)
  | adjust (product : ProductId) (adjustment : Adjustment) (now : Instant)
  | setThreshold (product : ProductId) (threshold : Quantity) (now : Instant)
  | delete (product : ProductId)
  | lowStock (threshold : Option Quantity) (request : PageRequest)
  | reserve (reservation : Reservation)
  | resolve (id : Uuid) (resolution : Resolution) (now : Instant)
  | findReservation (id : Uuid)
  | overdue (asOf : Instant) (limit : Nat)
  | findProcessed (key : String)
  | recordProcessed (command : ProcessedCommand)

namespace StoreCall

/-- The type of a call's answer, if the call succeeds. -/
abbrev Value : StoreCall → Type
  | create _ | adjust _ _ _ | setThreshold _ _ _ => StockRecord
  | find _ => Option StockRecord
  | findMany _ => List StockRecord
  | delete _ | recordProcessed _ => Unit
  | lowStock _ _ => Page
  | reserve _ => Reservation
  | resolve _ _ _ => Outcome
  | findReservation _ => Option Reservation
  | overdue _ _ => List Reservation
  | findProcessed _ => Option ProcessedCommand

abbrev Answer (call : StoreCall) : Type :=
  Except StockError call.Value

end StoreCall

end Stockroom
