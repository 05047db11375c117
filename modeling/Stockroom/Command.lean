import Stockroom.Json.Value
import Stockroom.Time.Instant
import Stockroom.Uuid

/-!
# Commands

What a saga asks of the stockroom.  The payload is decoded only when the
command is carried out; the idempotency key tells a redelivered command from a
new one.
-/

namespace Stockroom

inductive CommandKind where
  | reserveStock
  | confirmReservation
  | releaseReservation
  | adjustStock
  | checkStock
deriving DecidableEq, Repr

namespace CommandKind

def all : List CommandKind :=
  [.reserveStock, .confirmReservation, .releaseReservation, .adjustStock, .checkStock]

def word : CommandKind → String
  | .reserveStock => "ReserveStock"
  | .confirmReservation => "ConfirmReservation"
  | .releaseReservation => "ReleaseReservation"
  | .adjustStock => "AdjustStock"
  | .checkStock => "CheckStock"

end CommandKind

structure Command where
  id : Uuid
  sagaId : Uuid
  kind : CommandKind
  payload : Json
  idempotencyKey : String
  createdAt : Instant

namespace Command

/-- A new command, whose idempotency key joins its saga with an id of its own. -/
def create (id keyId sagaId : Uuid) (kind : CommandKind) (payload : Json) (now : Instant) :
    Command where
  id := id
  sagaId := sagaId
  kind := kind
  payload := payload
  idempotencyKey := sagaId.text ++ "_" ++ keyId.text
  createdAt := now

end Command

/-- A line of an order as it is asked for. -/
structure RequestedLine where
  product : String
  quantity : Int
deriving DecidableEq, Repr

/-- A line of a stock check; without a number of units it asks for one. -/
structure CheckLine where
  product : String
  quantity : Option Int
deriving DecidableEq, Repr

structure ReservePayload where
  orderId : String
  lines : List RequestedLine

structure ReservationPayload where
  reservation : Uuid

structure AdjustPayload where
  product : String
  kind : String
  quantity : Int

structure CheckPayload where
  lines : List CheckLine

end Stockroom
