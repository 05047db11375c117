import Stockroom.Text.Blank
import Stockroom.Violation

/-!
# Product ids

A product is named by text that is not blank.  The text is kept as it was
given, and ids are ordered by code point.
-/

namespace Stockroom

structure ProductId where
  text : String
  notBlank : Text.isBlank text = false
deriving DecidableEq, Repr

namespace ProductId

def ofText (text : String) : Except Violation ProductId :=
  if hblank : Text.isBlank text = false then .ok ⟨text, hblank⟩ else .error .emptyProductId

@[ext]
theorem ext {left right : ProductId} (htext : left.text = right.text) : left = right := by
  cases left; cases right; simp_all

instance : LE ProductId :=
  ⟨fun left right => left.text ≤ right.text⟩

instance : LT ProductId :=
  ⟨fun left right => left.text < right.text⟩

instance : DecidableLT ProductId :=
  fun left right => inferInstanceAs (Decidable (left.text < right.text))

instance : Std.IsLinearOrder ProductId where
  le_refl id := Std.IsPreorder.le_refl id.text
  le_trans first second third := Std.IsPreorder.le_trans first.text second.text third.text
  le_antisymm left right hle hge :=
    ext (Std.IsPartialOrder.le_antisymm left.text right.text hle hge)
  le_total left right := Std.IsLinearPreorder.le_total left.text right.text

instance : Std.LawfulOrderLT ProductId where
  lt_iff left right := Std.LawfulOrderLT.lt_iff left.text right.text

@[simp]
theorem ofText_text (id : ProductId) : ofText id.text = .ok id := by
  simp [ofText, id.notBlank]

/-- Inserts an id into ids in ascending order, unless it is among them. -/
def insertSorted (id : ProductId) : List ProductId → List ProductId
  | [] => [id]
  | first :: rest =>
    if id < first then id :: first :: rest
    else if first < id then first :: insertSorted id rest
    else first :: rest

/-- The distinct ids of a list in ascending order. -/
def sortedDistinct (ids : List ProductId) : List ProductId :=
  ids.foldr insertSorted []

end ProductId

end Stockroom
