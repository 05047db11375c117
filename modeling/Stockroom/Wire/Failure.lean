import Stockroom.Wire.Scalar

/-!
# The wire form of failures
-/

namespace Stockroom

namespace Violation

/-- The word for the kind of a violation. -/
def name : Violation → String
  | .nonPositiveQuantity => "NonPositiveQuantity"
  | .negativeQuantity _ => "NegativeQuantity"
  | .quantityOutOfRange _ => "QuantityOutOfRange"
  | .emptyProductId => "EmptyProductId"
  | .insufficientStock _ _ => "InsufficientStock"
  | .exceedsReserved _ _ _ => "ExceedsReserved"
  | .emptyOrderId => "EmptyOrderId"
  | .emptyReservation => "EmptyReservation"
  | .reservationExpired => "ReservationExpired"
  | .reservationNotDue => "ReservationNotDue"
  | .invalidTransition _ _ => "InvalidTransition"
  | .unknownAdjustment _ => "UnknownAdjustmentType"
  | .unknownStatus _ => "UnknownReservationStatus"

def members (violation : Violation) : List (String × Json) :=
  [("error", .string violation.name), ("message", .string violation.message),
   ("validation", .bool violation.blamesRequest)]

def toJson (violation : Violation) : Json :=
  .ofMembers violation.members

end Violation

namespace StockError

def members (error : StockError) : List (String × Json) :=
  [("error", error.kind.toJson), ("message", .string error.message),
   ("retryable", .bool error.isRetryable)]

def toJson (error : StockError) : Json :=
  .ofMembers error.members

end StockError

end Stockroom
