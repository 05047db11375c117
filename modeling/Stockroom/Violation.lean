import Stockroom.Quantity
import Stockroom.Reservation.Status

/-!
# Violated rules

The rules of stock and of reservations, as the causes for which a request is
turned down.  Some blame the request alone, whatever the state of the stock;
the others blame the state it met.
-/

namespace Stockroom

inductive Violation where
  | nonPositiveQuantity
  | negativeQuantity (value : Int)
  | quantityOutOfRange (value : Int)
  | emptyProductId
  | insufficientStock (available requested : Quantity)
  | exceedsReserved (action : Resolution) (reserved requested : Quantity)
  | emptyOrderId
  | emptyReservation
  | reservationExpired
  | reservationNotDue
  | invalidTransition (current : Status) (attempted : Resolution)
  | unknownAdjustment (text : String)
  | unknownStatus (text : String)
deriving DecidableEq, Repr

namespace Violation

def message : Violation → String
  | .nonPositiveQuantity => "Quantity must be positive"
  | .negativeQuantity value => "Quantity cannot be negative: " ++ toString value
  | .quantityOutOfRange value =>
    "Quantity " ++ toString value ++ " exceeds the maximum of " ++ toString Quantity.maximum
  | .emptyProductId => "Product id must not be empty"
  | .insufficientStock available requested =>
    "Insufficient stock. Available: " ++ toString available.value ++
      ", Requested: " ++ toString requested.value
  | .exceedsReserved action reserved requested =>
    "Cannot " ++ action.word ++ " more than reserved. Reserved: " ++ toString reserved.value ++
      ", Requested: " ++ toString requested.value
  | .emptyOrderId => "Order id must not be empty"
  | .emptyReservation => "Reservation must contain at least one item"
  | .reservationExpired => "Cannot confirm expired reservation"
  | .reservationNotDue => "Reservation has not expired yet"
  | .invalidTransition current attempted =>
    "Cannot " ++ attempted.word ++ " a reservation that is " ++ current.word
  | .unknownAdjustment text => "Unknown adjustment type: " ++ text
  | .unknownStatus text => "Unknown reservation status: " ++ text

/-- Whether the request itself is malformed, rather than at odds with the state it met. -/
def blamesRequest : Violation → Bool
  | .nonPositiveQuantity | .negativeQuantity _ | .quantityOutOfRange _ | .emptyProductId
  | .emptyOrderId | .emptyReservation | .unknownAdjustment _ => true
  | .insufficientStock _ _ | .exceedsReserved _ _ _ | .reservationExpired | .reservationNotDue
  | .invalidTransition _ _ | .unknownStatus _ => false

end Violation

end Stockroom
