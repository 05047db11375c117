import Mathlib.Data.List.Basic
import Stockroom.Sorting

/-!
# What sorting keeps and makes

A sorted list has the members of the list that was given, and under a total
order each stands before all that follow it.
-/

namespace Stockroom.Sorting

variable {α β : Type} {before : α → α → Bool}

theorem perm_insert (before : α → α → Bool) (value : α) (list : List α) :
    (insert before value list).Perm (value :: list) := by
  induction list with
  | nil => exact .refl _
  | cons first rest ih =>
    rw [insert]
    split
    · exact .refl _
    · exact (ih.cons first).trans (.swap value first rest)

theorem perm_sort (before : α → α → Bool) (list : List α) : (sort before list).Perm list := by
  induction list with
  | nil => exact .refl _
  | cons first rest ih => exact (perm_insert before first _).trans (ih.cons first)

theorem mem_sort {value : α} {list : List α} : value ∈ sort before list ↔ value ∈ list :=
  (perm_sort before list).mem_iff

theorem length_sort (before : α → α → Bool) (list : List α) :
    (sort before list).length = list.length :=
  (perm_sort before list).length_eq

theorem pairwise_insert
    (htrans : ∀ one two three, before one two = true → before two three = true →
      before one three = true)
    (htotal : ∀ one other, (before one other || before other one) = true) (value : α)
    {list : List α} (hsorted : list.Pairwise fun earlier later => before earlier later = true) :
    (insert before value list).Pairwise fun earlier later => before earlier later = true := by
  induction list with
  | nil => exact List.pairwise_singleton _ _
  | cons first rest ih =>
    obtain ⟨hfirst, hrest⟩ := List.pairwise_cons.1 hsorted
    rw [insert]
    split
    · rename_i hbefore
      refine List.pairwise_cons.2 ⟨fun later hlater => ?_, hsorted⟩
      rcases List.mem_cons.1 hlater with rfl | hmem
      · exact hbefore
      · exact htrans value first later hbefore (hfirst later hmem)
    · rename_i hafter
      refine List.pairwise_cons.2 ⟨fun later hlater => ?_, ih hrest⟩
      rcases List.mem_cons.1 ((perm_insert before value rest).mem_iff.1 hlater) with rfl | hmem
      · exact (Bool.or_eq_true_iff.1 (htotal later first)).resolve_left hafter
      · exact hfirst later hmem

theorem pairwise_sort
    (htrans : ∀ one two three, before one two = true → before two three = true →
      before one three = true)
    (htotal : ∀ one other, (before one other || before other one) = true) (list : List α) :
    (sort before list).Pairwise fun earlier later => before earlier later = true := by
  induction list with
  | nil => exact .nil
  | cons first rest ih => exact pairwise_insert htrans htotal first ih

/-- What compares alike is sorted alike. -/
theorem map_sort {after : β → β → Bool} {convert : α → β}
    (hsame : ∀ left right, before left right = after (convert left) (convert right))
    (list : List α) : (sort before list).map convert = sort after (list.map convert) := by
  have hinsert (value : α) (list : List α) :
      (insert before value list).map convert =
        insert after (convert value) (list.map convert) := by
    induction list with
    | nil => rfl
    | cons first rest ih =>
      rw [insert, List.map_cons, insert, ← hsame, ← ih]
      split <;> rfl
  induction list with
  | nil => rfl
  | cons first rest ih => rw [sort, hinsert, ih, List.map_cons, sort]

end Stockroom.Sorting
