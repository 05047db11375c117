import Mathlib
import Stockroom.Uuid

/-!
# Ids read back

The text of an id is the plainest of its spellings: five groups of the lengths
that reading expects, and nothing around them.
-/

namespace Stockroom.Uuid

/-! ## Hexadecimal digits -/

theorem hexValue?_hexDigit : ∀ value < 16, hexValue? (hexDigit value) = some value := by
  decide

theorem hexDigit_ne_hyphen : ∀ value < 16, hexDigit value ≠ '-' := by
  decide

theorem utf8Size_hexDigit : ∀ value < 16, (hexDigit value).utf8Size = 1 := by
  decide

theorem length_hexDigits (count number : Nat) : (hexDigits count number).length = count := by
  induction count generalizing number with
  | zero => rfl
  | succ count ih => simp [hexDigits, ih]

theorem mem_hexDigits {count number : Nat} {character : Char}
    (hmem : character ∈ hexDigits count number) :
    ∃ value < 16, character = hexDigit value := by
  induction count generalizing number with
  | zero => cases hmem
  | succ count ih =>
    rw [hexDigits, List.mem_append, List.mem_singleton] at hmem
    cases hmem with
    | inl hearlier => exact ih hearlier
    | inr hlast => exact ⟨number % 16, Nat.mod_lt number (by decide), hlast⟩

/-- As many digits as are written, that much of a number is read back. -/
theorem hexNumber?_hexDigits (count number : Nat) :
    hexNumber? (hexDigits count number) = some (number % 16 ^ count) := by
  induction count generalizing number with
  | zero => simp [hexNumber?, hexDigits, Nat.mod_one]
  | succ count ih =>
    have hlast := hexValue?_hexDigit (number % 16) (Nat.mod_lt number (by decide))
    simp only [hexNumber?] at ih
    simp only [hexNumber?, hexDigits, List.foldlM_append, ih, List.foldlM_cons, List.foldlM_nil,
      hlast, Option.map_some, Option.bind_eq_bind, Option.bind_some, Option.pure_def,
      Option.some.injEq]
    rw [Nat.pow_succ, Nat.mul_comm (16 ^ count), Nat.mod_mul]
    omega

/-! ## Groups -/

theorem groups_of_not_mem {digits : List Char} (hdigits : '-' ∉ digits) :
    groups digits = [digits] := by
  induction digits with
  | nil => rfl
  | cons first others ih =>
    rw [List.mem_cons, not_or] at hdigits
    simp [groups, ih hdigits.2, Ne.symm hdigits.1]

/-- A group ends at the first hyphen. -/
theorem groups_append {digits : List Char} (hdigits : '-' ∉ digits) (rest : List Char) :
    groups (digits ++ '-' :: rest) = digits :: groups rest := by
  induction digits with
  | nil => simp [groups]
  | cons first others ih =>
    rw [List.mem_cons, not_or] at hdigits
    simp [groups, ih hdigits.2, Ne.symm hdigits.1]

/-- Groups that are joined by hyphens are told apart again. -/
theorem groups_intercalate {parts : List (List Char)} (hsome : parts ≠ [])
    (hparts : ∀ part ∈ parts, '-' ∉ part) : groups (['-'].intercalate parts) = parts := by
  induction parts with
  | nil => exact absurd rfl hsome
  | cons part others ih =>
    rw [List.forall_mem_cons] at hparts
    cases others with
    | nil => rw [List.intercalate_singleton, groups_of_not_mem hparts.1]
    | cons next rest =>
      rw [List.intercalate_cons_cons, List.append_assoc, List.singleton_append,
        groups_append hparts.1, ih (List.cons_ne_nil next rest) hparts.2]

/-- What remains of joined groups without their hyphens. -/
theorem filter_intercalate {parts : List (List Char)} (hparts : ∀ part ∈ parts, '-' ∉ part) :
    (['-'].intercalate parts).filter (· ≠ '-') = parts.flatten := by
  have hkept {part : List Char} (hpart : '-' ∉ part) : part.filter (· ≠ '-') = part := by
    apply List.filter_eq_self.2
    intro character hmem
    have hne : character ≠ '-' := by
      rintro rfl
      exact hpart hmem
    simpa using hne
  induction parts with
  | nil => rfl
  | cons part others ih =>
    rw [List.forall_mem_cons] at hparts
    cases others with
    | nil => simpa using hkept hparts.1
    | cons next rest =>
      rw [List.intercalate_cons_cons, List.filter_append, List.filter_append, hkept hparts.1,
        ih hparts.2]
      simp

theorem mem_intercalate {parts : List (List Char)} {character : Char}
    (hmem : character ∈ ['-'].intercalate parts) :
    character = '-' ∨ character ∈ parts.flatten := by
  induction parts with
  | nil => cases hmem
  | cons part others ih =>
    cases others with
    | nil => exact .inr (by simpa using hmem)
    | cons next rest =>
      rw [List.intercalate_cons_cons, List.mem_append, List.mem_append] at hmem
      rw [List.flatten_cons, List.mem_append]
      rcases hmem with (hpart | hhyphen) | hothers
      · exact .inr (.inl hpart)
      · exact .inl (List.mem_singleton.1 hhyphen)
      · exact (ih hothers).imp_right .inr

/-- Groups of the expected lengths are in order. -/
theorem misfitGroup?_of_lengths (size group start : Nat) {expected : List Nat}
    {parts : List (List Char)} (hlengths : parts.map List.length = expected) :
    misfitGroup? size group start expected parts = none := by
  induction parts generalizing expected group start with
  | nil =>
    rw [← hlengths]
    rfl
  | cons part others ih =>
    rw [← hlengths, List.map_cons, misfitGroup?, if_pos rfl]
    exact ih _ _ rfl

theorem strayCharacter?_eq_none {characters : List Char}
    (hplain : ∀ character ∈ characters, character = '-' ∨ (hexValue? character).isSome)
    (index : Nat) : strayCharacter? index characters = none := by
  induction characters generalizing index with
  | nil => rfl
  | cons character rest ih =>
    rw [List.forall_mem_cons] at hplain
    rw [strayCharacter?, if_pos hplain.1]
    exact ih hplain.2 _

theorem utf8ByteSize_ofList {characters : List Char}
    (hplain : ∀ character ∈ characters, character.utf8Size = 1) :
    (String.ofList characters).utf8ByteSize = characters.length := by
  induction characters with
  | nil => rfl
  | cons character rest ih =>
    rw [List.forall_mem_cons] at hplain
    rw [String.ofList_cons, String.utf8ByteSize_append, String.utf8ByteSize_singleton, hplain.1,
      ih hplain.2, List.length_cons, Nat.add_comm]

/-! ## Whole texts -/

/-- The five groups of digits of an id. -/
def parts (id : Uuid) : List (List Char) :=
  let digits := hexDigits 32 id.bits.toNat
  [digits.take 8, (digits.drop 8).take 4, (digits.drop 12).take 4, (digits.drop 16).take 4,
    digits.drop 20]

theorem toList_text (id : Uuid) : id.text.toList = ['-'].intercalate id.parts := by
  simp [text, parts, List.intercalate_cons_cons]

theorem flatten_parts (id : Uuid) : id.parts.flatten = hexDigits 32 id.bits.toNat := by
  simp only [parts]
  generalize hexDigits 32 id.bits.toNat = digits
  calc
    _ = digits.take 8 ++ ((digits.drop 8).take 4 ++ (((digits.drop 8).drop 4).take 4 ++
        ((((digits.drop 8).drop 4).drop 4).take 4 ++
          (((digits.drop 8).drop 4).drop 4).drop 4))) := by simp
    _ = digits := by simp only [List.take_append_drop]

theorem lengths_parts (id : Uuid) : id.parts.map List.length = groupLengths := by
  simp [parts, length_hexDigits, groupLengths]

theorem mem_text {id : Uuid} {character : Char} (hmem : character ∈ id.text.toList) :
    character = '-' ∨ ∃ value < 16, character = hexDigit value := by
  rw [toList_text] at hmem
  apply (mem_intercalate hmem).imp_right
  rw [flatten_parts]
  exact mem_hexDigits

theorem utf8ByteSize_text (id : Uuid) : id.text.utf8ByteSize = groupedSize := by
  have hlength : id.text.toList.length = groupedSize := by
    simp [toList_text, parts, List.intercalate_cons_cons, length_hexDigits, groupedSize]
  rw [← hlength, ← utf8ByteSize_ofList, String.ofList_toList]
  intro character hmem
  rcases mem_text hmem with rfl | ⟨value, hvalue, rfl⟩
  · rfl
  · exact utf8Size_hexDigit value hvalue

theorem spelling_text (id : Uuid) : spelling id.text = ⟨id.text.toList, 0, false⟩ := by
  simp only [spelling, utf8ByteSize_text, if_true]

theorem hyphen_not_mem_parts (id : Uuid) : ∀ part ∈ id.parts, '-' ∉ part := by
  intro part hpart hhyphen
  have hmem : '-' ∈ hexDigits 32 id.bits.toNat :=
    id.flatten_parts ▸ List.mem_flatten.2 ⟨part, hpart, hhyphen⟩
  obtain ⟨value, hvalue, heq⟩ := mem_hexDigits hmem
  exact hexDigit_ne_hyphen value hvalue heq.symm

theorem flaw?_text (id : Uuid) : flaw? id.text = none := by
  have hstray : strayCharacter? 0 id.text.toList = none := by
    apply strayCharacter?_eq_none
    intro character hmem
    apply (mem_text hmem).imp_right
    rintro ⟨value, hvalue, rfl⟩
    rw [hexValue?_hexDigit value hvalue]
    rfl
  have hsome : id.parts ≠ [] := List.cons_ne_nil _ _
  have hgroups : groups id.text.toList = id.parts := by
    rw [toList_text, groups_intercalate hsome id.hyphen_not_mem_parts]
  have hcount : id.parts.length = 5 := rfl
  simp [flaw?, spelling_text, hstray, hgroups, hcount, utf8ByteSize_text, groupedSize,
    misfitGroup?_of_lengths _ _ _ id.lengths_parts]

/-- Every id is read back from its text. -/
theorem ofText_text (id : Uuid) : ofText id.text = .ok id := by
  have hdigits : (spelling id.text).characters.filter (· ≠ '-') = hexDigits 32 id.bits.toNat := by
    rw [spelling_text, toList_text, filter_intercalate id.hyphen_not_mem_parts, flatten_parts]
  have hnumber : id.bits.toNat % 16 ^ 32 = id.bits.toNat := Nat.mod_eq_of_lt id.bits.isLt
  rw [ofText, flaw?_text]
  simp only [hdigits, hexNumber?_hexDigits, hnumber, Option.getD_some, ofNat, BitVec.ofNat_toNat,
    BitVec.setWidth_eq]

end Stockroom.Uuid
