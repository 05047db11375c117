/-!
# Quantities

A number of units of a product.  Every quantity fits the signed 32-bit column
that stores it, and that bound is part of the type.
-/

namespace Stockroom

structure Quantity where
  value : Nat
  value_le : value ≤ 2147483647
deriving DecidableEq, Repr

namespace Quantity

/-- The largest number of units that can be stored. -/
def maximum : Nat := 2147483647

def zero : Quantity := ⟨0, by decide⟩

def one : Quantity := ⟨1, by decide⟩

instance : Inhabited Quantity :=
  ⟨zero⟩

instance : LE Quantity :=
  ⟨fun left right => left.value ≤ right.value⟩

instance : LT Quantity :=
  ⟨fun left right => left.value < right.value⟩

instance : DecidableLE Quantity :=
  fun left right => inferInstanceAs (Decidable (left.value ≤ right.value))

instance : DecidableLT Quantity :=
  fun left right => inferInstanceAs (Decidable (left.value < right.value))

@[ext]
theorem ext {left right : Quantity} (hvalue : left.value = right.value) : left = right := by
  cases left; cases right; simp_all

theorem le_def {left right : Quantity} : left ≤ right ↔ left.value ≤ right.value := Iff.rfl

theorem lt_def {left right : Quantity} : left < right ↔ left.value < right.value := Iff.rfl

def isZero (quantity : Quantity) : Bool :=
  quantity.value == 0

/-- The comparison of two quantities by their number of units. -/
def compare (left right : Quantity) : Ordering :=
  if left < right then .lt else if right < left then .gt else .eq

end Quantity

end Stockroom
