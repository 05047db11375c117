import Mathlib.Data.List.Basic
import Stockroom.Proofs.Sorting
import Stockroom.SortedMap

/-!
# Sorted listings

Lists that are sorted by one key and then by another do not depend on the
order in which their members were given, as long as no two members have both
keys in common.
-/

namespace Stockroom.Listing

variable {α κ μ : Type} [DecidableEq κ] [LE κ] [LT κ] [DecidableLT κ] [Std.IsLinearOrder κ]
  [Std.LawfulOrderLT κ] [LE μ] [LT μ] [DecidableLT μ] [Std.IsLinearOrder μ] [Std.LawfulOrderLT μ]

/-- The order by one key and, where that is the same, by another. -/
def before (first : α → κ) (second : α → μ) (left right : α) : Bool :=
  first left < first right || (first left == first right && !(second right < second left))

variable {first : α → κ} {second : α → μ}

omit [LE κ] [Std.IsLinearOrder κ] [Std.LawfulOrderLT κ] in
theorem before_iff {left right : α} : before first second left right = true ↔
    first left < first right ∨ (first left = first right ∧ second left ≤ second right) := by
  simp only [before, Bool.or_eq_true, Bool.and_eq_true, decide_eq_true_eq, beq_iff_eq,
    Bool.not_eq_true', decide_eq_false_iff_not, Std.not_lt]

theorem before_trans (left middle right : α) (hleft : before first second left middle = true)
    (hright : before first second middle right = true) : before first second left right = true := by
  rw [before_iff] at hleft hright ⊢
  rcases hleft with hless | ⟨hsame, hle⟩
  · rcases hright with hmore | ⟨hother, _⟩
    · exact .inl (Std.lt_trans hless hmore)
    · exact .inl (hother ▸ hless)
  · rcases hright with hmore | ⟨hother, hmore⟩
    · exact .inl (hsame ▸ hmore)
    · exact .inr ⟨hsame.trans hother, Std.le_trans hle hmore⟩

theorem before_total (left right : α) :
    (before first second left right || before first second right left) = true := by
  rw [Bool.or_eq_true, before_iff, before_iff]
  by_cases hsame : first left = first right
  · have hle : second left ≤ second right ∨ second right ≤ second left := Std.le_total
    exact hle.imp (fun hle => .inr ⟨hsame, hle⟩) fun hle => .inr ⟨hsame.symm, hle⟩
  · by_cases hless : first left < first right
    · exact .inl (.inl hless)
    · refine .inr (.inl (Std.not_le.1 fun hle => hsame ?_))
      exact Std.le_antisymm hle (Std.not_lt.1 hless)

theorem eq_keys_of_before {left right : α} (hleft : before first second left right = true)
    (hright : before first second right left = true) :
    first left = first right ∧ second left = second right := by
  rw [before_iff] at hleft hright
  rcases hleft with hless | ⟨hsame, hle⟩
  · rcases hright with hmore | ⟨hother, _⟩
    · exact absurd (Std.lt_trans hless hmore) Std.lt_irrefl
    · exact absurd (hother ▸ hless) Std.lt_irrefl
  · rcases hright with hmore | ⟨_, hmore⟩
    · exact absurd (hsame ▸ hmore) Std.lt_irrefl
    · exact ⟨hsame, Std.le_antisymm hle hmore⟩

theorem sort_eq_of_perm {left right : List α} (hperm : left.Perm right)
    (hkeys : ∀ one ∈ left, ∀ other ∈ left, first one = first other →
      second one = second other → one = other) :
    Sorting.sort (before first second) left = Sorting.sort (before first second) right := by
  refine List.Perm.eq_of_pairwise (fun one other hone hother hle hge => ?_)
    (Sorting.pairwise_sort before_trans before_total left)
    (Sorting.pairwise_sort before_trans before_total right)
    ((Sorting.perm_sort _ left).trans (hperm.trans (Sorting.perm_sort _ right).symm))
  obtain ⟨hfirst, hsecond⟩ := eq_keys_of_before hle hge
  rw [Sorting.mem_sort] at hone hother
  exact hkeys one hone other (hperm.mem_iff.2 hother) hfirst hsecond

end Stockroom.Listing
