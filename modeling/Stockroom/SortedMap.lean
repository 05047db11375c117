/-!
# Sorted maps

A finite map kept as its list of entries in strictly ascending key order.  The
order makes the representation canonical: two maps with the same lookups are
equal, and listing a map always lists it by key.
-/

namespace Stockroom

/-- A finite map whose entries stand in strictly ascending key order. -/
structure SortedMap (κ ν : Type) [LT κ] where
  entries : List (κ × ν)
  ascending : entries.Pairwise (fun earlier later => earlier.1 < later.1)

namespace SortedMap

section Entries

variable {κ ν : Type} [LT κ] [DecidableLT κ]

def entryValue? {κ ν : Type} [DecidableEq κ] (key : κ) : List (κ × ν) → Option ν
  | [] => none
  | entry :: rest => if entry.1 = key then some entry.2 else entryValue? key rest

/-- Puts an entry where its key belongs, replacing an entry of the same key. -/
def insertEntry (key : κ) (value : ν) : List (κ × ν) → List (κ × ν)
  | [] => [(key, value)]
  | entry :: rest =>
    if key < entry.1 then (key, value) :: entry :: rest
    else if entry.1 < key then entry :: insertEntry key value rest
    else (key, value) :: rest

theorem mem_insertEntry {key : κ} {value : ν} {entries : List (κ × ν)} {found : κ × ν}
    (hfound : found ∈ insertEntry key value entries) :
    found = (key, value) ∨ found ∈ entries := by
  induction entries with
  | nil => simpa [insertEntry] using hfound
  | cons entry rest ih =>
    simp only [insertEntry] at hfound
    split at hfound
    · simpa using hfound
    · split at hfound
      · rcases List.mem_cons.1 hfound with rfl | hrest
        · simp
        · rcases ih hrest with heq | hmem <;> simp_all
      · rcases List.mem_cons.1 hfound with heq | hrest <;> simp_all

end Entries

variable {κ ν : Type} [LE κ] [LT κ] [DecidableLT κ] [Std.IsLinearOrder κ] [Std.LawfulOrderLT κ]

theorem pairwise_insertEntry (key : κ) (value : ν) {entries : List (κ × ν)}
    (hascending : entries.Pairwise (fun earlier later => earlier.1 < later.1)) :
    (insertEntry key value entries).Pairwise (fun earlier later => earlier.1 < later.1) := by
  induction entries with
  | nil => simp [insertEntry]
  | cons entry rest ih =>
    obtain ⟨hfirst, hrest⟩ := List.pairwise_cons.1 hascending
    simp only [insertEntry]
    split
    · rename_i hbefore
      refine List.pairwise_cons.2 ⟨fun later hlater => ?_, hascending⟩
      rcases List.mem_cons.1 hlater with rfl | hmem
      · exact hbefore
      · exact Std.lt_trans hbefore (hfirst later hmem)
    · split
      · rename_i hafter
        refine List.pairwise_cons.2 ⟨fun later hlater => ?_, ih hrest⟩
        rcases mem_insertEntry hlater with rfl | hmem
        · exact hafter
        · exact hfirst later hmem
      · rename_i hnotBefore hnotAfter
        have hsame : key = entry.1 :=
          Std.le_antisymm (Std.not_lt.1 hnotAfter) (Std.not_lt.1 hnotBefore)
        exact List.pairwise_cons.2 ⟨fun later hlater => hsame ▸ hfirst later hlater, hrest⟩

def empty {κ ν : Type} [LT κ] : SortedMap κ ν :=
  ⟨[], List.Pairwise.nil⟩

def find? {κ ν : Type} [LT κ] [DecidableEq κ] (map : SortedMap κ ν) (key : κ) : Option ν :=
  entryValue? key map.entries

def contains {κ ν : Type} [LT κ] [DecidableEq κ] (map : SortedMap κ ν) (key : κ) : Bool :=
  (map.find? key).isSome

/-- The values in ascending key order. -/
def values {κ ν : Type} [LT κ] (map : SortedMap κ ν) : List ν :=
  map.entries.map Prod.snd

def erase {κ ν : Type} [LT κ] [DecidableEq κ] (map : SortedMap κ ν) (key : κ) : SortedMap κ ν :=
  ⟨map.entries.filter (fun entry => entry.1 ≠ key), map.ascending.filter _⟩

def insert (map : SortedMap κ ν) (key : κ) (value : ν) : SortedMap κ ν :=
  ⟨insertEntry key value map.entries, pairwise_insertEntry key value map.ascending⟩

def ofList (entries : List (κ × ν)) : SortedMap κ ν :=
  entries.foldl (fun map entry => map.insert entry.1 entry.2) empty

instance {κ ν : Type} [LT κ] : Inhabited (SortedMap κ ν) :=
  ⟨empty⟩

@[simp]
theorem find?_empty {κ ν : Type} [LT κ] [DecidableEq κ] (key : κ) :
    (empty : SortedMap κ ν).find? key = none := rfl

private theorem entryValue?_insertEntry [DecidableEq κ] (key sought : κ) (value : ν)
    {entries : List (κ × ν)}
    (hascending : entries.Pairwise (fun earlier later => earlier.1 < later.1)) :
    entryValue? sought (insertEntry key value entries) =
      if key = sought then some value else entryValue? sought entries := by
  induction entries with
  | nil => simp [insertEntry, entryValue?]
  | cons entry rest ih =>
    obtain ⟨hfirst, hrest⟩ := List.pairwise_cons.1 hascending
    simp only [insertEntry]
    split
    · simp [entryValue?]
    · split
      · rename_i hafter
        by_cases hkey : key = sought
        · subst hkey
          have hne : entry.1 ≠ key := fun heq => Std.lt_irrefl (heq ▸ hafter)
          simp [entryValue?, ih hrest, hne]
        · simp [entryValue?, ih hrest, hkey]
      · rename_i hnotBefore hnotAfter
        have hsame : key = entry.1 :=
          Std.le_antisymm (Std.not_lt.1 hnotAfter) (Std.not_lt.1 hnotBefore)
        by_cases hkey : key = sought
        · simp [entryValue?, hkey]
        · simp [entryValue?, hkey, ← hsame]

@[simp]
theorem find?_insert [DecidableEq κ] (map : SortedMap κ ν) (key sought : κ) (value : ν) :
    (map.insert key value).find? sought =
      if key = sought then some value else map.find? sought :=
  entryValue?_insertEntry key sought value map.ascending

private theorem entryValue?_filter {κ ν : Type} [DecidableEq κ] (key sought : κ)
    (entries : List (κ × ν)) :
    entryValue? sought (entries.filter (fun entry => entry.1 ≠ key)) =
      if key = sought then none else entryValue? sought entries := by
  induction entries with
  | nil => simp [entryValue?]
  | cons entry rest ih =>
    by_cases hentry : entry.1 = key
    · by_cases hkey : key = sought <;> simp_all [entryValue?]
    · by_cases hkey : key = sought
      · subst hkey
        simp_all [entryValue?]
      · simp_all [entryValue?]

@[simp]
theorem find?_erase {κ ν : Type} [LT κ] [DecidableEq κ] (map : SortedMap κ ν) (key sought : κ) :
    (map.erase key).find? sought = if key = sought then none else map.find? sought :=
  entryValue?_filter key sought map.entries

end SortedMap

end Stockroom
