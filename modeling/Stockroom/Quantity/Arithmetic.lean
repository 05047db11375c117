import Stockroom.Quantity
import Stockroom.Violation

/-!
# Checked arithmetic on quantities

Sums and differences are taken over the integers and then have to be
quantities again, so an operation either has its exact result or reports the
exact number that is none.
-/

namespace Stockroom.Quantity

/-- The quantity of an integer number of units. -/
def ofInt (value : Int) : Except Violation Quantity :=
  if value < 0 then .error (.negativeQuantity value)
  else if hvalue : value.toNat ≤ 2147483647 then .ok ⟨value.toNat, hvalue⟩
  else .error (.quantityOutOfRange value)

def ensurePositive (quantity : Quantity) : Except Violation Unit :=
  if quantity.isZero then .error .nonPositiveQuantity else .ok ()

/-- The quantity of a positive integer number of units. -/
def positive (value : Int) : Except Violation Quantity := do
  let quantity ← ofInt value
  quantity.ensurePositive
  return quantity

def add (left right : Quantity) : Except Violation Quantity :=
  ofInt ((left.value : Int) + right.value)

def sub (left right : Quantity) : Except Violation Quantity :=
  ofInt ((left.value : Int) - right.value)

@[simp]
theorem ofInt_value (quantity : Quantity) : ofInt (quantity.value : Int) = .ok quantity := by
  have hbound := quantity.value_le
  have hnonneg : ¬ (quantity.value : Int) < 0 := by omega
  simp [ofInt, hnonneg, hbound]

end Stockroom.Quantity
