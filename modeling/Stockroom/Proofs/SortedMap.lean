import Mathlib
import Stockroom.SortedMap

/-!
# Sorted maps by their lookups

A sorted map is determined by its lookups, its values are what the lookups
find, and a sum over its values changes by one summand when one entry changes.
-/

namespace Stockroom.SortedMap

section Lookups

variable {κ ν : Type} [DecidableEq κ]

theorem entryValue?_eq_some_of_mem {key : κ} {value : ν} {entries : List (κ × ν)}
    (hdistinct : entries.Pairwise (fun earlier later => earlier.1 ≠ later.1))
    (hmem : (key, value) ∈ entries) : entryValue? key entries = some value := by
  induction entries with
  | nil => simp at hmem
  | cons entry rest ih =>
    obtain ⟨hfirst, hrest⟩ := List.pairwise_cons.1 hdistinct
    rcases List.mem_cons.1 hmem with heq | hmem
    · simp [entryValue?, ← heq]
    · have hne : entry.1 ≠ key := hfirst _ hmem
      simp [entryValue?, hne, ih hrest hmem]

theorem mem_of_entryValue?_eq_some {key : κ} {value : ν} {entries : List (κ × ν)}
    (hfound : entryValue? key entries = some value) : (key, value) ∈ entries := by
  induction entries with
  | nil => simp [entryValue?] at hfound
  | cons entry rest ih =>
    by_cases hkey : entry.1 = key
    · simp only [entryValue?, hkey, if_true, Option.some.injEq] at hfound
      simp [← hkey, ← hfound]
    · simp only [entryValue?, hkey, if_false] at hfound
      exact List.mem_cons_of_mem _ (ih hfound)

end Lookups

variable {κ ν : Type} [LE κ] [LT κ] [DecidableLT κ] [Std.IsLinearOrder κ] [Std.LawfulOrderLT κ]
  [DecidableEq κ]

omit [DecidableLT κ] [Std.IsLinearOrder κ] [DecidableEq κ] in
theorem keys_distinct (map : SortedMap κ ν) :
    map.entries.Pairwise (fun earlier later => earlier.1 ≠ later.1) := by
  refine map.ascending.imp ?_
  intro earlier later hlt heq
  exact Std.lt_irrefl (heq ▸ hlt)

omit [DecidableLT κ] [Std.IsLinearOrder κ] [DecidableEq κ] in
theorem nodup_entries (map : SortedMap κ ν) : map.entries.Nodup :=
  map.keys_distinct.imp fun {_ _} hne heq => hne (congrArg Prod.fst heq)

omit [DecidableLT κ] [Std.IsLinearOrder κ] in
theorem find?_eq_some_iff {map : SortedMap κ ν} {key : κ} {value : ν} :
    map.find? key = some value ↔ (key, value) ∈ map.entries :=
  ⟨mem_of_entryValue?_eq_some, entryValue?_eq_some_of_mem map.keys_distinct⟩

omit [DecidableLT κ] [Std.IsLinearOrder κ] in
theorem mem_values_iff {map : SortedMap κ ν} {value : ν} :
    value ∈ map.values ↔ ∃ key, map.find? key = some value := by
  simp [values, find?_eq_some_iff]

omit [DecidableLT κ] [Std.IsLinearOrder κ] in
/-- What can be told from the values alone can be told from the entries. -/
theorem map_values_eq {γ : Type} {map : SortedMap κ ν} {ofValue : ν → γ} {ofEntry : κ × ν → γ}
    (hsame : ∀ key value, map.find? key = some value → ofValue value = ofEntry (key, value)) :
    map.values.map ofValue = map.entries.map ofEntry := by
  rw [values, List.map_map]
  exact List.map_congr_left fun entry hentry =>
    hsame entry.1 entry.2 (find?_eq_some_iff.2 hentry)

omit [DecidableLT κ] [Std.IsLinearOrder κ] in
/-- Looking up all keys in turn gives the values. -/
theorem filterMap_find?_keys (map : SortedMap κ ν) :
    (map.entries.map Prod.fst).filterMap map.find? = map.values := by
  have hfound : ∀ entry ∈ map.entries, map.find? entry.1 = some entry.2 :=
    fun entry hentry => find?_eq_some_iff.2 hentry
  rw [List.filterMap_map, values, ← List.filterMap_eq_map]
  exact List.filterMap_congr hfound

omit [LE κ] [DecidableLT κ] [Std.IsLinearOrder κ] [Std.LawfulOrderLT κ] in
theorem contains_eq_false_iff {map : SortedMap κ ν} {key : κ} :
    map.contains key = false ↔ map.find? key = none := by
  simp [contains]

omit [DecidableLT κ] in
/-- Two maps with the same lookups are the same map. -/
theorem ext_find? {left right : SortedMap κ ν}
    (hlookups : ∀ key, left.find? key = right.find? key) : left = right := by
  have hperm : left.entries.Perm right.entries := by
    refine (List.perm_ext_iff_of_nodup left.nodup_entries right.nodup_entries).2 fun entry => ?_
    rw [← find?_eq_some_iff, ← find?_eq_some_iff, hlookups]
  have hentries : left.entries = right.entries := by
    refine hperm.eq_of_pairwise (fun earlier later _ _ hlt hgt => ?_)
      left.ascending right.ascending
    exact absurd (Std.lt_trans hlt hgt) Std.lt_irrefl
  cases left
  cases right
  congr

theorem insert_comm (map : SortedMap κ ν) {first second : κ} (hne : first ≠ second)
    (one other : ν) :
    (map.insert first one).insert second other = (map.insert second other).insert first one := by
  apply ext_find?
  intro sought
  by_cases hfirst : first = sought
  · have hsecond : second ≠ sought := fun heq => hne (hfirst.trans heq.symm)
    simp [hfirst, hsecond]
  · simp [hfirst]

/-- A new key adds one entry. -/
theorem perm_entries_insert {map : SortedMap κ ν} {key : κ} (habsent : map.find? key = none)
    (value : ν) : (map.insert key value).entries.Perm ((key, value) :: map.entries) := by
  have hnew (other : ν) : (key, other) ∉ map.entries := by
    rw [← find?_eq_some_iff, habsent]
    exact nofun
  refine (List.perm_ext_iff_of_nodup (nodup_entries _)
    (List.nodup_cons.2 ⟨hnew value, map.nodup_entries⟩)).2 fun entry => ?_
  rw [← find?_eq_some_iff, find?_insert, List.mem_cons, ← find?_eq_some_iff]
  by_cases hkey : key = entry.1
  · rw [if_pos hkey, ← hkey, habsent]
    simp [Prod.ext_iff, hkey, eq_comm]
  · rw [if_neg hkey]
    simp [Prod.ext_iff, Ne.symm hkey]

/-! ## Maps of lists -/

omit [DecidableEq κ] in
theorem entries_ofList (entries : List (κ × ν)) : (ofList entries).entries =
    entries.foldl (fun sorted entry => insertEntry entry.1 entry.2 sorted) [] :=
  (List.foldl_hom SortedMap.entries (by intros; rfl)).symm

/-- What is found in the map of a list is what the list has under the key. -/
theorem find?_ofList {entries : List (κ × ν)} (hdistinct : (entries.map Prod.fst).Nodup)
    (key : κ) : (ofList entries).find? key = entryValue? key entries := by
  have hfold (map : SortedMap κ ν) :
      (entries.foldl (fun map entry => map.insert entry.1 entry.2) map).find? key =
        (entryValue? key entries).or (map.find? key) := by
    induction entries generalizing map with
    | nil => rfl
    | cons entry rest ih =>
      rw [List.map_cons, List.nodup_cons] at hdistinct
      rw [List.foldl_cons, ih hdistinct.2, find?_insert, entryValue?]
      by_cases hkey : entry.1 = key
      · have habsent : entryValue? key rest = none := by
          cases hfound : entryValue? key rest with
          | none => rfl
          | some value =>
            have hmem : key ∈ rest.map Prod.fst :=
              List.mem_map_of_mem (mem_of_entryValue?_eq_some hfound)
            exact absurd (hkey ▸ hmem) hdistinct.1
        simp [hkey, habsent]
      · simp [hkey]
  rw [ofList, hfold, find?_empty, Option.or_none]

omit [DecidableEq κ] in
theorem mem_of_mem_ofList {entries : List (κ × ν)} {entry : κ × ν}
    (hmem : entry ∈ (ofList entries).entries) : entry ∈ entries := by
  have hfold (entries sorted : List (κ × ν)) (hfound : entry ∈ entries.foldl
      (fun sorted entry => insertEntry entry.1 entry.2 sorted) sorted) :
      entry ∈ entries ∨ entry ∈ sorted := by
    induction entries generalizing sorted with
    | nil => exact .inr hfound
    | cons first rest ih =>
      rcases ih _ hfound with hrest | hsorted
      · exact .inl (List.mem_cons_of_mem _ hrest)
      · rcases mem_insertEntry hsorted with rfl | hsorted
        · exact .inl List.mem_cons_self
        · exact .inr hsorted
  rw [entries_ofList] at hmem
  exact (hfold entries [] hmem).resolve_right List.not_mem_nil

/-- A map is the map of its entries. -/
theorem ofList_entries (map : SortedMap κ ν) : ofList map.entries = map := by
  apply ext_find?
  intro key
  apply find?_ofList
  exact List.pairwise_map.2 map.keys_distinct

/-! ## Sums over the values -/

/-- The sum of what every value counts for. -/
def total (map : SortedMap κ ν) (count : ν → Nat) : Nat :=
  (map.values.map count).sum

omit [LE κ] [DecidableLT κ] [Std.IsLinearOrder κ] [Std.LawfulOrderLT κ] [DecidableEq κ] in
@[simp]
theorem total_empty (count : ν → Nat) : (empty : SortedMap κ ν).total count = 0 := rfl

private theorem sum_insertEntry (key : κ) (value : ν) (count : ν → Nat)
    {entries : List (κ × ν)}
    (hascending : entries.Pairwise (fun earlier later => earlier.1 < later.1)) :
    ((insertEntry key value entries).map (fun entry => count entry.2)).sum +
        ((entryValue? key entries).map count).getD 0 =
      (entries.map (fun entry => count entry.2)).sum + count value := by
  induction entries with
  | nil => simp [insertEntry, entryValue?]
  | cons entry rest ih =>
    obtain ⟨hfirst, hrest⟩ := List.pairwise_cons.1 hascending
    simp only [insertEntry]
    split
    · rename_i hbefore
      have habsent : entryValue? key (entry :: rest) = none := by
        cases hfound : entryValue? key (entry :: rest) with
        | none => rfl
        | some found =>
          rcases List.mem_cons.1 (mem_of_entryValue?_eq_some hfound) with heq | hmem
          · exact absurd (heq ▸ hbefore) Std.lt_irrefl
          · exact absurd (Std.lt_trans hbefore (hfirst _ hmem)) Std.lt_irrefl
      simp only [habsent, List.map_cons, List.sum_cons, Option.map_none, Option.getD_none]
      omega
    · split
      · rename_i hafter
        have hne : entry.1 ≠ key := fun heq => Std.lt_irrefl (heq ▸ hafter)
        have hstep := ih hrest
        simp only [entryValue?, hne, if_false, List.map_cons, List.sum_cons]
        omega
      · rename_i hnotBefore hnotAfter
        have hsame : entry.1 = key :=
          Std.le_antisymm (Std.not_lt.1 hnotBefore) (Std.not_lt.1 hnotAfter)
        simp only [entryValue?, hsame, if_true, List.map_cons, List.sum_cons, Option.map_some,
          Option.getD_some]
        omega

/-- Writing an entry takes what the old value counted for out of the sum and the new value's
share into it. -/
theorem total_insert (map : SortedMap κ ν) (key : κ) (value : ν) (count : ν → Nat) :
    (map.insert key value).total count + ((map.find? key).map count).getD 0 =
      map.total count + count value := by
  have hsum := sum_insertEntry key value count map.ascending
  simp only [total, values, List.map_map]
  exact hsum

omit [DecidableLT κ] [Std.IsLinearOrder κ] in
theorem count_le_total {map : SortedMap κ ν} {key : κ} {value : ν} (count : ν → Nat)
    (hfound : map.find? key = some value) : count value ≤ map.total count :=
  List.le_sum_of_mem (List.mem_map_of_mem (mem_values_iff.2 ⟨key, hfound⟩))

end Stockroom.SortedMap
