import Stockroom.StockRecord

/-!
# Reservations

A reservation holds stock for one checkout attempt until it is confirmed,
released or expires.  It has one line per product, in the order in which the
products were first asked for.
-/

namespace Stockroom

structure ReservationLine where
  product : ProductId
  quantity : Quantity
deriving DecidableEq

namespace ReservationLine

/-- Adds a line to lines of distinct products, onto the line of its product if there is one. -/
def merge (line : ReservationLine) :
    List ReservationLine → Except Violation (List ReservationLine)
  | [] => .ok [line]
  | first :: rest =>
    if first.product = line.product then do
      let quantity ← first.quantity.add line.quantity
      return { first with quantity := quantity } :: rest
    else do
      return first :: (← merge line rest)

def mergeAll (merged : List ReservationLine) :
    List ReservationLine → Except Violation (List ReservationLine)
  | [] => .ok merged
  | line :: rest => do
    line.quantity.ensurePositive
    mergeAll (← merge line merged) rest

/-- One line per product with the sum of its quantities, in order of first appearance. -/
def consolidate (lines : List ReservationLine) : Except Violation (List ReservationLine) :=
  if lines.isEmpty then .error .emptyReservation else mergeAll [] lines

end ReservationLine

structure Reservation where
  id : Uuid
  orderId : String
  lines : List ReservationLine
  status : Status
  expiresAt : Instant
  createdAt : Instant
  updatedAt : Instant
deriving DecidableEq

/-- What asking for a resolution did to a reservation. -/
inductive Transition where
  | applied
  | alreadyResolved
deriving DecidableEq, Repr

namespace Reservation

/-- Why a reservation could not be made. -/
inductive Obstacle where
  | violation (violation : Violation)
  | deadlineOutOfRange

def ensureOrderId (orderId : String) : Except Violation Unit :=
  if Text.isBlank orderId then .error .emptyOrderId else .ok ()

/-- A new pending reservation that holds its lines for a duration. -/
def make (id : Uuid) (orderId : String) (lines : List ReservationLine) (holdFor : Duration)
    (now : Instant) : Except Obstacle Reservation := do
  let lines ← (do
    ensureOrderId orderId
    ReservationLine.consolidate lines).mapError Obstacle.violation
  match now.add? holdFor with
  | none => throw .deadlineOutOfRange
  | some expiresAt =>
    return {
      id := id
      orderId := orderId
      lines := lines
      status := .pending
      expiresAt := expiresAt
      createdAt := now
      updatedAt := now }

def totalQuantity (reservation : Reservation) : Nat :=
  reservation.lines.foldr (fun line total => line.quantity.value + total) 0

def isPending (reservation : Reservation) : Bool :=
  reservation.status == .pending

/-- A reservation outlives its deadline, but not the instant after it. -/
def isExpired (reservation : Reservation) (now : Instant) : Bool :=
  reservation.expiresAt < now

/-- The products of a reservation in the order in which their records are locked. -/
def lockOrder (reservation : Reservation) : List ProductId :=
  ProductId.sortedDistinct (reservation.lines.map ReservationLine.product)

def settle (reservation : Reservation) (status : Status) (now : Instant) :
    Transition × Reservation :=
  (.applied, { reservation with status := status, updatedAt := now })

/-- A pending reservation can be confirmed until it expires, a confirmed one stays so. -/
def confirm (reservation : Reservation) (now : Instant) :
    Except Violation (Transition × Reservation) :=
  match reservation.status with
  | .pending =>
    if reservation.isExpired now then .error .reservationExpired
    else .ok (reservation.settle .confirmed now)
  | .confirmed => .ok (.alreadyResolved, reservation)
  | .released => .error (.invalidTransition .released .confirm)
  | .expired => .error (.invalidTransition .expired .confirm)

/-- A pending reservation can be released at any time; a resolved one is left as it is. -/
def release (reservation : Reservation) (now : Instant) :
    Except Violation (Transition × Reservation) :=
  if reservation.isPending then .ok (reservation.settle .released now)
  else .ok (.alreadyResolved, reservation)

/-- A pending reservation expires once its deadline has passed. -/
def expire (reservation : Reservation) (now : Instant) :
    Except Violation (Transition × Reservation) :=
  if reservation.isPending then
    if reservation.isExpired now then .ok (reservation.settle .expired now)
    else .error .reservationNotDue
  else .ok (.alreadyResolved, reservation)

def resolve (reservation : Reservation) (resolution : Resolution) (now : Instant) :
    Except Violation (Transition × Reservation) :=
  match resolution with
  | .confirm => reservation.confirm now
  | .release => reservation.release now
  | .expire => reservation.expire now

end Reservation

end Stockroom
