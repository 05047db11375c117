import Stockroom.StockRecord

/-!
# Availability

Whether a product can be had in a requested number of units.  A product
without a record is not available, which is an answer and no failure.
-/

namespace Stockroom

structure Availability where
  product : String
  isAvailable : Bool
  available : Nat
  requested : Nat
deriving DecidableEq, Repr

namespace Availability

def missing (product : String) (requested : Nat) : Availability :=
  ⟨product, false, 0, requested⟩

def ofRecord? (product : ProductId) (requested : Quantity) : Option StockRecord → Availability
  | some record =>
    ⟨product.text, record.canFulfil requested, record.available.value, requested.value⟩
  | none => missing product.text requested.value

end Availability

end Stockroom
