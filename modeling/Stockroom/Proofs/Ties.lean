import Mathlib.Data.List.Basic

/-!
# Lists up to the order of ties

Two lists of the same members that are both sorted by a key differ at most in
the order of members with the same key, and swaps of such neighbours lead from
one to the other.
-/

namespace Stockroom

variable {α κ : Type} {key : α → κ}

/-- Lists of the same members with, place by place, the same keys. -/
structure SameUpToTies (key : α → κ) (left right : List α) : Prop where
  perm : left.Perm right
  keys : left.map key = right.map key

/-- Swaps of neighbours with the same key lead from one list to the other. -/
inductive TiesSwapped (key : α → κ) : List α → List α → Prop
  | nil : TiesSwapped key [] []
  | cons (member : α) {left right : List α} (hrest : TiesSwapped key left right) :
    TiesSwapped key (member :: left) (member :: right)
  | swap (first second : α) (rest : List α) (htie : key first = key second) :
    TiesSwapped key (first :: second :: rest) (second :: first :: rest)
  | trans {left middle right : List α} (hleft : TiesSwapped key left middle)
    (hright : TiesSwapped key middle right) : TiesSwapped key left right

/-- No member among the first so many has its key in common with a later one. -/
def CutsNoTie (key : α → κ) (count : Nat) (list : List α) : Prop :=
  ∀ taken ∈ list.take count, ∀ left ∈ list.drop count, key taken ≠ key left

instance [DecidableEq κ] (key : α → κ) (count : Nat) (list : List α) :
    Decidable (CutsNoTie key count list) :=
  inferInstanceAs (Decidable (∀ taken ∈ list.take count, ∀ left ∈ list.drop count,
    key taken ≠ key left))

theorem cutsNoTie_iff_keys {count : Nat} {list : List α} : CutsNoTie key count list ↔
    ∀ taken ∈ (list.map key).take count, ∀ left ∈ (list.map key).drop count, taken ≠ left := by
  rw [CutsNoTie, ← List.map_take, ← List.map_drop]
  simp only [List.forall_mem_map]

variable {left right : List α}

/-- Whether a bound cuts a tie does not depend on the order of ties. -/
theorem SameUpToTies.cutsNoTie (hsame : SameUpToTies key left right) {count : Nat}
    (hcuts : CutsNoTie key count left) : CutsNoTie key count right := by
  rw [cutsNoTie_iff_keys, ← hsame.keys]
  exact cutsNoTie_iff_keys.1 hcuts

namespace TiesSwapped

theorem refl (list : List α) : TiesSwapped key list list := by
  induction list with
  | nil => exact nil
  | cons first rest ih => exact cons first ih

theorem same (hswapped : TiesSwapped key left right) : SameUpToTies key left right := by
  induction hswapped with
  | nil => exact ⟨.refl [], rfl⟩
  | cons member _ ih => exact ⟨ih.perm.cons member, congrArg (key member :: ·) ih.keys⟩
  | swap first second rest htie =>
    refine ⟨.swap second first rest, ?_⟩
    simp only [List.map_cons, htie]
  | trans _ _ hleft hright =>
    exact ⟨hleft.perm.trans hright.perm, hleft.keys.trans hright.keys⟩

/-- A member may be moved behind others of its key. -/
theorem of_cons_append {member : α} {first : List α} (rest : List α)
    (htie : ∀ other ∈ first, key member = key other) :
    TiesSwapped key (member :: (first ++ rest)) (first ++ member :: rest) := by
  induction first with
  | nil => exact refl _
  | cons other first ih =>
    obtain ⟨hother, hfirst⟩ := List.forall_mem_cons.1 htie
    exact (swap member other (first ++ rest) hother).trans (cons other (ih hfirst))

/-- Two sorted lists of the same members. -/
theorem of_sorted [LE κ] [Std.IsPartialOrder κ] (hperm : left.Perm right)
    (hleft : left.Pairwise fun earlier later => key earlier ≤ key later)
    (hright : right.Pairwise fun earlier later => key earlier ≤ key later) :
    TiesSwapped key left right := by
  induction left generalizing right with
  | nil => exact hperm.nil_eq ▸ nil
  | cons member left ih =>
    obtain ⟨first, rest, rfl⟩ := List.append_of_mem (hperm.mem_iff.1 List.mem_cons_self)
    obtain ⟨hmember, hleft⟩ := List.pairwise_cons.1 hleft
    have hothers : left.Perm (first ++ rest) := (hperm.trans List.perm_middle).cons_inv
    have htie : ∀ other ∈ first, key member = key other := by
      intro other hother
      refine Std.le_antisymm ?_ ?_
      · exact hmember other (hothers.mem_iff.2 (List.mem_append_left rest hother))
      · exact (List.pairwise_append.1 hright).2.2 other hother member List.mem_cons_self
    have hrest : (first ++ rest).Pairwise fun earlier later => key earlier ≤ key later :=
      hright.sublist ((List.sublist_cons_self member rest).append_left first)
    exact (cons member (ih hothers hleft hrest)).trans (of_cons_append rest htie)

/-- A bound that cuts no tie takes the same members of both lists. -/
theorem take (hswapped : TiesSwapped key left right) {count : Nat}
    (hcuts : CutsNoTie key count left) :
    TiesSwapped key (left.take count) (right.take count) := by
  induction hswapped generalizing count with
  | nil => exact refl _
  | cons member _ ih =>
    cases count with
    | zero => exact nil
    | succ count =>
      exact cons member (ih fun taken htaken => hcuts taken (List.mem_cons_of_mem member htaken))
  | swap first second rest htie =>
    match count with
    | 0 => exact nil
    | 1 => exact absurd htie (hcuts first List.mem_cons_self second List.mem_cons_self)
    | count + 2 => exact swap first second (rest.take count) htie
  | trans hleft _ ihleft ihright =>
    exact (ihleft hcuts).trans (ihright (hleft.same.cutsNoTie hcuts))

end TiesSwapped

end Stockroom
