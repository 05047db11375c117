import Mathlib.Data.List.Nodup

/-!
# Lookups by key

Lists in which no two members have the same key, and what is found under a key
when a member is replaced, added or removed.
-/

namespace Stockroom.Keys

variable {α κ : Type} [DecidableEq κ] {key : α → κ} {list first rest : List α} {member : α}

theorem find?_eq_some_iff (hdistinct : (list.map key).Nodup) {sought : κ} :
    list.find? (key · == sought) = some member ↔ member ∈ list ∧ key member = sought := by
  constructor
  · intro hfound
    exact ⟨List.mem_of_find?_eq_some hfound, by simpa using List.find?_some hfound⟩
  · rintro ⟨hmem, rfl⟩
    cases hfound : list.find? (key · == key member) with
    | none => exact absurd (List.find?_eq_none.1 hfound member hmem) (by simp)
    | some found =>
      have hkey : key found = key member := by simpa using List.find?_some hfound
      exact congrArg some (List.inj_on_of_nodup_map hdistinct (List.mem_of_find?_eq_some hfound)
        hmem hkey)

theorem find?_eq_none_iff {sought : κ} :
    list.find? (key · == sought) = none ↔ ∀ other ∈ list, key other ≠ sought := by
  simp

/-- What is found under a key does not depend on the order of the members. -/
theorem find?_eq_of_perm {other : List α} (hperm : list.Perm other)
    (hdistinct : (list.map key).Nodup) (sought : κ) :
    list.find? (key · == sought) = other.find? (key · == sought) := by
  have hothers : (other.map key).Nodup := (hperm.map key).nodup_iff.1 hdistinct
  ext member
  rw [find?_eq_some_iff hdistinct, find?_eq_some_iff hothers, hperm.mem_iff]

omit [DecidableEq κ] in
theorem ne_of_distinct (hdistinct : ((first ++ member :: rest).map key).Nodup) :
    ∀ other ∈ first ++ rest, key other ≠ key member := by
  rw [List.map_append, List.map_cons, List.nodup_middle, List.nodup_cons, ← List.map_append]
    at hdistinct
  exact fun other hother hsame => hdistinct.1 (List.mem_map.2 ⟨other, hother, hsame⟩)

/-- A member is replaced by one of the same key. -/
theorem find?_replace (hdistinct : ((first ++ member :: rest).map key).Nodup) {other : α}
    (hkey : key other = key member) (sought : κ) :
    (first ++ other :: rest).find? (key · == sought) =
      if key member = sought then some other
      else (first ++ member :: rest).find? (key · == sought) := by
  rw [List.find?_append, List.find?_append, List.find?_cons, List.find?_cons, hkey]
  by_cases hsame : key member = sought
  · have hfirst : first.find? (key · == sought) = none := by
      refine find?_eq_none_iff.2 fun earlier hearlier => ?_
      rw [← hsame]
      exact ne_of_distinct hdistinct earlier (List.mem_append_left _ hearlier)
    simp [hfirst, hsame]
  · have hother : (key member == sought) = false := beq_eq_false_iff_ne.2 hsame
    rw [if_neg hsame, hother]

theorem find?_add (hfresh : ∀ other ∈ list, key other ≠ key member) (sought : κ) :
    (list ++ [member]).find? (key · == sought) =
      if key member = sought then some member else list.find? (key · == sought) := by
  rw [List.find?_append, List.find?_cons, List.find?_nil]
  by_cases hsame : key member = sought
  · have hnone : list.find? (key · == sought) = none :=
      find?_eq_none_iff.2 fun other hother => hsame ▸ hfresh other hother
    simp [hnone, hsame]
  · have hother : (key member == sought) = false := beq_eq_false_iff_ne.2 hsame
    rw [if_neg hsame, hother, Option.or_none]

theorem find?_remove (list : List α) (key : α → κ) (removed sought : κ) :
    (list.filter (key · != removed)).find? (key · == sought) =
      if removed = sought then none else list.find? (key · == sought) := by
  rw [List.find?_filter]
  split
  · rename_i hsame
    refine List.find?_eq_none.2 fun other _ => ?_
    simp [hsame]
  · rename_i hne
    congr 1
    funext other
    by_cases hkey : key other = sought
    · simp [hkey, Ne.symm hne]
    · simp [hkey]

end Stockroom.Keys
