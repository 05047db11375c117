import Stockroom.Reservation
import Stockroom.SortedMap
import Stockroom.StockError

/-!
# Holding stock

What a reservation does to the records of its products, line by line, on a
working copy.  A line that cannot be held or resolved fails the whole, and the
working copy is dropped.
-/

namespace Stockroom

/-- Copies of the records that one unit of work has locked. -/
abbrev WorkingCopy := SortedMap ProductId StockRecord

namespace WorkingCopy

def lookup (copy : WorkingCopy) (product : ProductId) : Except StockError StockRecord :=
  match copy.find? product with
  | some record => .ok record
  | none => .error (.productMissing product)

/-- Moves the units of one line from available to reserved. -/
def holdLine (copy : WorkingCopy) (line : ReservationLine) (now : Instant) :
    Except StockError WorkingCopy := do
  let record ← copy.lookup line.product
  unless record.canFulfil line.quantity do throw (.shortOf line.product)
  let record ← (record.reserve line.quantity now).mapError .violation
  return copy.insert line.product record

def holdLines (copy : WorkingCopy) (now : Instant) :
    List ReservationLine → Except StockError WorkingCopy
  | [] => .ok copy
  | line :: rest => do
    (← copy.holdLine line now).holdLines now rest

/-- Holds the stock of a new reservation. -/
def hold (copy : WorkingCopy) (reservation : Reservation) : Except StockError WorkingCopy :=
  copy.holdLines reservation.createdAt reservation.lines

/-- Does to the record of one line what a resolution does to held units. -/
def resolveLine (copy : WorkingCopy) (resolution : Resolution) (line : ReservationLine)
    (now : Instant) : Except StockError WorkingCopy := do
  let record ← copy.lookup line.product
  let record ← (record.resolve resolution line.quantity now).mapError .violation
  return copy.insert line.product record

def resolveLines (copy : WorkingCopy) (resolution : Resolution) (now : Instant) :
    List ReservationLine → Except StockError WorkingCopy
  | [] => .ok copy
  | line :: rest => do
    (← copy.resolveLine resolution line now).resolveLines resolution now rest

end WorkingCopy

end Stockroom
