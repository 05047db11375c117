import Stockroom.Proofs.SortedMap
import Stockroom.Store.Memory

/-!
# Rows that are shared

Concurrent calls find a row by its key and then wait for its lock.  A row that
is removed meanwhile stays in place without contents for those who wait for
it, and the next row of the same key is another one.
-/

namespace Stockroom

/-- Rows by number, and which row a key has at present. -/
structure Rows (κ ν : Type) [LT κ] where
  handles : SortedMap κ Nat
  contents : Nat → Option ν
  made : Nat

namespace Rows

variable {κ ν : Type} [LT κ] [DecidableEq κ]

def empty : Rows κ ν := ⟨.empty, fun _ => none, 0⟩

def write (rows : Rows κ ν) (row : Nat) (value : ν) : Rows κ ν :=
  { rows with contents := Function.update rows.contents row (some value) }

/-- Empties a row. -/
def clear (rows : Rows κ ν) (row : Nat) : Rows κ ν :=
  { rows with contents := Function.update rows.contents row none }

/-- Takes its row away from a key. -/
def drop (rows : Rows κ ν) (key : κ) : Rows κ ν :=
  { rows with handles := rows.handles.erase key }

/-- What the present row of a key contains. -/
def find? (rows : Rows κ ν) (key : κ) : Option ν :=
  (rows.handles.find? key).bind rows.contents

/-- Keys have rows of their own, and these have contents. -/
structure Sound (rows : Rows κ ν) : Prop where
  filled : ∀ key row, rows.handles.find? key = some row →
    ∃ value, rows.contents row = some value
  distinct : ∀ key other row, rows.handles.find? key = some row →
    rows.handles.find? other = some row → key = other
  below : ∀ key row, rows.handles.find? key = some row → row < rows.made

/-- Only rows in `held` have been changed or taken away. -/
structure Keeps (held : Set Nat) (before after : Rows κ ν) : Prop where
  contents : ∀ row < before.made, row ∉ held → after.contents row = before.contents row
  handles : ∀ key row, before.handles.find? key = some row → row ∉ held →
    after.handles.find? key = some row
  made : before.made ≤ after.made

theorem find?_of_handle {rows : Rows κ ν} {key : κ} {row : Nat}
    (hhandle : rows.handles.find? key = some row) : rows.find? key = rows.contents row := by
  rw [find?, hhandle, Option.bind_some]

theorem find?_of_no_handle {rows : Rows κ ν} {key : κ}
    (hhandle : rows.handles.find? key = none) : rows.find? key = none := by
  rw [find?, hhandle, Option.bind_none]

theorem Sound.handle_eq_none_iff {rows : Rows κ ν} (hsound : rows.Sound) {key : κ} :
    rows.handles.find? key = none ↔ rows.find? key = none := by
  refine ⟨find?_of_no_handle, fun hnone => ?_⟩
  cases hhandle : rows.handles.find? key with
  | none => rfl
  | some row =>
    obtain ⟨value, hvalue⟩ := hsound.filled key row hhandle
    rw [find?_of_handle hhandle, hvalue] at hnone
    cases hnone

namespace Sound

variable {rows : Rows κ ν}

theorem empty : (Rows.empty : Rows κ ν).Sound :=
  ⟨nofun, nofun, nofun⟩

theorem write (hsound : rows.Sound) (row : Nat) (value : ν) : (rows.write row value).Sound where
  filled key other hhandle := by
    by_cases hrow : other = row
    · exact ⟨value, hrow ▸ Function.update_self ..⟩
    · obtain ⟨old, hold⟩ := hsound.filled key other hhandle
      exact ⟨old, (Function.update_of_ne hrow ..).trans hold⟩
  distinct := hsound.distinct
  below := hsound.below

/-- What is done to the row of a key does not reach the row of another. -/
theorem row_ne (hsound : rows.Sound) {key other : κ} {row found : Nat}
    (hhandle : rows.handles.find? key = some row) (hfound : rows.handles.find? other = some found)
    (hne : key ≠ other) : found ≠ row := by
  rintro rfl
  exact hne (hsound.distinct key other found hhandle hfound)

/-- A row may be emptied if it is taken away from its key at once. -/
theorem remove (hsound : rows.Sound) {key : κ} {row : Nat}
    (hhandle : rows.handles.find? key = some row) : ((rows.clear row).drop key).Sound where
  filled other found hfound := by
    simp only [drop, clear, SortedMap.find?_erase] at hfound ⊢
    split at hfound
    · cases hfound
    · rename_i hkey
      rw [Function.update_of_ne (hsound.row_ne hhandle hfound hkey)]
      exact hsound.filled other found hfound
  distinct first second found hfirst hsecond := by
    simp only [drop, clear, SortedMap.find?_erase] at hfirst hsecond
    split at hfirst
    · cases hfirst
    · split at hsecond
      · cases hsecond
      · exact hsound.distinct first second found hfirst hsecond
  below other found hfound := by
    simp only [drop, clear, SortedMap.find?_erase] at hfound
    split at hfound
    · cases hfound
    · exact hsound.below other found hfound

theorem find?_write (hsound : rows.Sound) {key : κ} {row : Nat}
    (hhandle : rows.handles.find? key = some row) (sought : κ) (value : ν) :
    (rows.write row value).find? sought =
      if key = sought then some value else rows.find? sought := by
  simp only [find?, Rows.write]
  split
  · rename_i hkey
    rw [← hkey, hhandle]
    exact Function.update_self ..
  · rename_i hkey
    cases hfound : rows.handles.find? sought with
    | none => rfl
    | some found => exact Function.update_of_ne (hsound.row_ne hhandle hfound hkey) ..

theorem find?_remove (hsound : rows.Sound) {key : κ} {row : Nat}
    (hhandle : rows.handles.find? key = some row) (sought : κ) :
    ((rows.clear row).drop key).find? sought =
      if key = sought then none else rows.find? sought := by
  simp only [find?, drop, clear, SortedMap.find?_erase]
  split
  · rfl
  · rename_i hkey
    cases hfound : rows.handles.find? sought with
    | none => rfl
    | some found => exact Function.update_of_ne (hsound.row_ne hhandle hfound hkey) ..

end Sound

namespace Keeps

variable {held : Set Nat} {before between after : Rows κ ν}

theorem refl (held : Set Nat) (rows : Rows κ ν) : Keeps held rows rows :=
  ⟨fun _ _ _ => rfl, fun _ _ hhandle _ => hhandle, le_rfl⟩

theorem trans (hfirst : Keeps held before between) (hsecond : Keeps held between after) :
    Keeps held before after where
  contents row hrow hfree := by
    rw [hsecond.contents row (hrow.trans_le hfirst.made) hfree, hfirst.contents row hrow hfree]
  handles key row hhandle hfree :=
    hsecond.handles key row (hfirst.handles key row hhandle hfree) hfree
  made := hfirst.made.trans hsecond.made

theorem write {rows : Rows κ ν} {row : Nat} (hheld : row ∈ held) (value : ν) :
    Keeps held rows (rows.write row value) where
  contents _ _ hfree := Function.update_of_ne (ne_of_mem_of_not_mem hheld hfree).symm ..
  handles _ _ hhandle _ := hhandle
  made := le_rfl

theorem remove {rows : Rows κ ν} {key : κ} {row : Nat}
    (hhandle : rows.handles.find? key = some row) (hheld : row ∈ held) :
    Keeps held rows ((rows.clear row).drop key) where
  contents _ _ hfree := Function.update_of_ne (ne_of_mem_of_not_mem hheld hfree).symm ..
  handles other found hfound hfree := by
    have hne : key ≠ other := by
      rintro rfl
      rw [hhandle] at hfound
      exact hfree (Option.some.inj hfound ▸ hheld)
    rw [drop, clear, SortedMap.find?_erase, if_neg hne, hfound]
  made := le_rfl

end Keeps

/-! ## New rows -/

section Adding

variable [LE κ] [DecidableLT κ] [Std.IsLinearOrder κ] [Std.LawfulOrderLT κ]

/-- Makes a new row for a key. -/
def add (rows : Rows κ ν) (key : κ) (value : ν) : Rows κ ν where
  handles := rows.handles.insert key rows.made
  contents := Function.update rows.contents rows.made (some value)
  made := rows.made + 1

/-- The rows of the entries of a map. -/
def ofMap (map : SortedMap κ ν) : Rows κ ν :=
  map.entries.foldr (fun entry rows => rows.add entry.1 entry.2) empty

theorem Sound.add {rows : Rows κ ν} (hsound : rows.Sound) (key : κ) (value : ν) :
    (rows.add key value).Sound where
  filled other row hhandle := by
    simp only [Rows.add, SortedMap.find?_insert] at hhandle ⊢
    split at hhandle
    · cases hhandle
      exact ⟨value, Function.update_self ..⟩
    · have hne : row ≠ rows.made := (hsound.below other row hhandle).ne
      rw [Function.update_of_ne hne]
      exact hsound.filled other row hhandle
  distinct first second row hfirst hsecond := by
    simp only [Rows.add, SortedMap.find?_insert] at hfirst hsecond
    split at hfirst <;> split at hsecond
    · exact ‹key = first›.symm.trans ‹key = second›
    · cases hfirst
      exact absurd (hsound.below second _ hsecond) (lt_irrefl _)
    · cases hsecond
      exact absurd (hsound.below first _ hfirst) (lt_irrefl _)
    · exact hsound.distinct first second row hfirst hsecond
  below other row hhandle := by
    simp only [Rows.add, SortedMap.find?_insert] at hhandle ⊢
    split at hhandle
    · cases hhandle
      exact Nat.lt_succ_self _
    · exact Nat.lt_succ_of_lt (hsound.below other row hhandle)

theorem Sound.find?_add {rows : Rows κ ν} (hsound : rows.Sound) (key sought : κ) (value : ν) :
    (rows.add key value).find? sought = if key = sought then some value else rows.find? sought := by
  simp only [find?, Rows.add, SortedMap.find?_insert]
  split
  · exact Function.update_self ..
  · cases hhandle : rows.handles.find? sought with
    | none => rfl
    | some row => exact Function.update_of_ne (hsound.below sought row hhandle).ne ..

theorem Keeps.add (held : Set Nat) {rows : Rows κ ν} {key : κ}
    (habsent : rows.handles.find? key = none) (value : ν) :
    Keeps held rows (rows.add key value) where
  contents row hrow _ := Function.update_of_ne hrow.ne ..
  handles other row hhandle _ := by
    have hne : key ≠ other := by
      rintro rfl
      rw [habsent] at hhandle
      cases hhandle
    rw [Rows.add, SortedMap.find?_insert, if_neg hne, hhandle]
  made := Nat.le_succ _

theorem sound_ofMap (map : SortedMap κ ν) : (ofMap map).Sound := by
  rw [ofMap]
  induction map.entries with
  | nil => exact Sound.empty
  | cons entry rest ih => exact ih.add entry.1 entry.2

theorem find?_ofMap (map : SortedMap κ ν) (key : κ) : (ofMap map).find? key = map.find? key := by
  have hentries (entries : List (κ × ν)) :
      (entries.foldr (fun entry rows => rows.add entry.1 entry.2) empty : Rows κ ν).Sound ∧
        (entries.foldr (fun entry rows => rows.add entry.1 entry.2) empty : Rows κ ν).find? key =
          SortedMap.entryValue? key entries := by
    induction entries with
    | nil => exact ⟨Sound.empty, rfl⟩
    | cons entry rest ih =>
      refine ⟨ih.1.add entry.1 entry.2, ?_⟩
      rw [List.foldr_cons, ih.1.find?_add, ih.2]
      rfl
  exact (hentries map.entries).2

end Adding

end Rows

end Stockroom
