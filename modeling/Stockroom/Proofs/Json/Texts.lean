import Stockroom.Json.Document
import Stockroom.Proofs.Json.Canonical
import Stockroom.Proofs.Json.Reading
import Stockroom.Proofs.Json.Scalars

/-!
# Texts read back

The text of a value without floats is read as the source of that value.  Fuel
that is three times the length of what is left to read is always enough, as no
value, item or member begins without a character of its own.
-/

namespace Stockroom

namespace Json

open JsonSource (ofJson ofItems)

/-- All numbers in a value are whole numbers of 64 bits, with or without a sign. -/
inductive IsFloatless : Json → Prop
  | null : IsFloatless null
  | bool (value : Bool) : IsFloatless (bool value)
  | integer {value : Int} (hleast : -9223372036854775808 ≤ value)
    (hgreatest : value ≤ 18446744073709551615) : IsFloatless (int value)
  | string (value : String) : IsFloatless (string value)
  | array {items : List Json} (hitems : ∀ item ∈ items, IsFloatless item) :
    IsFloatless (array items)
  | object {members : List (String × Json)} (hmembers : ∀ member ∈ members, IsFloatless member.2) :
    IsFloatless (object members)

theorem writeNumber_natural (number : Nat) :
    writeNumber (.integer number) = Nat.toDigits 10 number := by
  rw [writeNumber, Int.toString_eq_repr, Int.repr_eq_if, if_pos (Int.natCast_nonneg number),
    Int.toNat_natCast, Nat.repr_eq_ofList_toDigits, String.toList_ofList]

theorem writeNumber_negative {number : Nat} (hpositive : 0 < number) :
    writeNumber (.integer (-(number : Int))) = '-' :: Nat.toDigits 10 number := by
  have hnegative : ¬ (0 : Int) ≤ -(number : Int) := by omega
  rw [writeNumber, Int.toString_eq_repr, Int.repr_eq_if, if_neg hnegative, Int.neg_neg,
    Int.toNat_natCast, Nat.repr_eq_ofList_toDigits, String.toList_append]
  simp only [String.toList_ofList]
  rfl

namespace Reader

/-- A character that no reader skips and that does not end an array. -/
def Begins (first : Char) : Prop :=
  first ≠ ' ' ∧ first ≠ '\n' ∧ first ≠ '\t' ∧ first ≠ '\r' ∧ first ≠ ']'

instance : DecidablePred Begins :=
  fun first => inferInstanceAs (Decidable (first ≠ ' ' ∧ _ ∧ _ ∧ _ ∧ _))

theorem begins_of_isDigit {first : Char} (hdigit : first.isDigit = true) : Begins first := by
  refine ⟨?_, ?_, ?_, ?_, ?_⟩ <;> (rintro rfl; cases hdigit)

theorem skipSpace_of_begins {first : Char} (hbegins : Begins first) (rest : List Char) :
    skipSpace (first :: rest) = first :: rest := by
  obtain ⟨hblank, hline, htab, hreturn, _⟩ := hbegins
  simp [skipSpace, hblank, hline, htab, hreturn]

theorem toDigits_eq_cons (number : Nat) : ∃ first others, first.isDigit = true ∧
    Nat.toDigits 10 number = first :: others := by
  obtain ⟨first, others, hsplit⟩ := List.exists_cons_of_ne_nil (@Nat.toDigits_ne_nil number 10)
  have hmem : first ∈ Nat.toDigits 10 number := hsplit ▸ List.mem_cons_self
  exact ⟨first, others, Nat.isDigit_of_mem_toDigits (by decide) (by decide) hmem, hsplit⟩

/-- A whole number is written as a natural one or as the negative of a positive one. -/
theorem integer_cases (value : Int) :
    (∃ number : Nat, value = number) ∨ ∃ number : Nat, 0 < number ∧ value = -(number : Int) := by
  rcases Int.le_total 0 value with hnatural | hnegative
  · exact .inl ⟨value.toNat, by omega⟩
  · rcases Int.lt_or_eq_of_le hnegative with hnegative | rfl
    · exact .inr ⟨(-value).toNat, by omega, by omega⟩
    · exact .inl ⟨0, rfl⟩

theorem write_eq_cons {json : Json} (hfloatless : json.IsFloatless) :
    ∃ first others, write json = first :: others ∧ Begins first := by
  cases hfloatless with
  | null => exact ⟨_, _, rfl, by decide⟩
  | bool value => cases value <;> exact ⟨_, _, rfl, by decide⟩
  | @integer value _ _ =>
    rcases integer_cases value with ⟨number, rfl⟩ | ⟨number, hpositive, rfl⟩
    · obtain ⟨first, others, hdigit, hsplit⟩ := toDigits_eq_cons number
      exact ⟨first, others, (writeNumber_natural number).trans hsplit, begins_of_isDigit hdigit⟩
    · exact ⟨_, _, writeNumber_negative hpositive, by decide⟩
  | string value => exact ⟨_, _, rfl, by decide⟩
  | @array items _ => cases items <;> exact ⟨_, _, rfl, by decide⟩
  | @object members _ => cases members <;> exact ⟨_, _, rfl, by decide⟩

/-! ## Steps of the reader -/

theorem readValue_string (fuel : Nat) (rest : List Char) :
    readValue (fuel + 1) ('"' :: rest) = (.string (readString rest).1, (readString rest).2) := rfl

theorem readValue_array (fuel : Nat) (rest : List Char) :
    readValue (fuel + 1) ('[' :: rest) = (.array (readItems fuel true rest).1
      (readItems fuel true rest).2.1, (readItems fuel true rest).2.2) := rfl

theorem readValue_object (fuel : Nat) (rest : List Char) :
    readValue (fuel + 1) ('\x7b' :: rest) = (.object (readMembers fuel true rest).1
      (readMembers fuel true rest).2.1, (readMembers fuel true rest).2.2) := rfl

theorem readValue_digit (fuel : Nat) {first : Char} (hdigit : first.isDigit = true)
    (rest : List Char) :
    readValue (fuel + 1) (first :: rest) = numberSource (readNumber false (first :: rest)) := by
  rw [readValue, skipSpace_of_begins (begins_of_isDigit hdigit)]
  split
  · cases ‹first :: rest = []›
  all_goals
    rename_i heq
    cases heq
  -- Of the characters that the reader knows, none is a digit.
  all_goals first
    | cases hdigit
    | exact if_pos hdigit

/-- The first item of an array begins behind the bracket. -/
theorem readItems_first (fuel : Nat) {item : Json} (hfloatless : item.IsFloatless)
    (rest : List Char) :
    readItems (fuel + 1) true (write item ++ rest) = readItem fuel (write item ++ rest) := by
  obtain ⟨first, others, hsplit, hbegins⟩ := write_eq_cons hfloatless
  rw [hsplit, List.cons_append, readItems, skipSpace_of_begins hbegins]
  split
  · cases ‹first :: (others ++ rest) = []›
  · rename_i heq
    cases heq
    exact absurd rfl hbegins.2.2.2.2
  · rename_i heq
    cases heq
    rfl

/-- Any other item begins behind a comma. -/
theorem readItems_next (fuel : Nat) {item : Json} (hfloatless : item.IsFloatless)
    (rest : List Char) :
    readItems (fuel + 1) false (',' :: (write item ++ rest)) =
      readItem fuel (write item ++ rest) := by
  obtain ⟨first, others, hsplit, hbegins⟩ := write_eq_cons hfloatless
  have hcomma : skipSpace (',' :: first :: (others ++ rest)) = ',' :: first :: (others ++ rest) :=
    rfl
  rw [hsplit, List.cons_append, readItems, hcomma]
  split
  · rename_i hempty
    cases hempty
  · rename_i hclosing
    cases hclosing
  · rename_i heq
    cases heq
    rw [if_neg Bool.false_ne_true, if_pos rfl, skipSpace_of_begins hbegins]
    split
    · rename_i heq
      cases heq
      exact absurd rfl hbegins.2.2.2.2
    · rfl

theorem readItem_ok {fuel : Nat} {characters rest : List Char} {item : JsonSource}
    (hitem : readValue fuel characters = (item, .ok rest)) :
    readItem (fuel + 1) characters = (item :: (readItems fuel false rest).1,
      (readItems fuel false rest).2.1, (readItems fuel false rest).2.2) := by
  rw [readItem, hitem]

theorem readMembers_first (fuel : Nat) (name : String) (rest : List Char) :
    readMembers (fuel + 1) true (writeString name ++ rest) =
      readMember fuel (writeString name ++ rest) := rfl

theorem readMembers_next (fuel : Nat) (name : String) (rest : List Char) :
    readMembers (fuel + 1) false (',' :: (writeString name ++ rest)) =
      readMember fuel (writeString name ++ rest) := rfl

theorem readMember_ok {fuel : Nat} {name : String} {characters rest : List Char}
    {value : JsonSource} (hvalue : readValue fuel characters = (value, .ok rest)) :
    readMember (fuel + 1) (writeString name ++ ':' :: characters) =
      ((.ok name, value) :: (readMembers fuel false rest).1, (readMembers fuel false rest).2.1,
        (readMembers fuel false rest).2.2) := by
  let quoted := name.toList.flatMap written ++ '"' :: ':' :: characters
  have hname : readString quoted = (.ok name, .ok (':' :: characters)) :=
    readString_written name (':' :: characters)
  have hcolon : skipSpace (':' :: characters) = ':' :: characters := rfl
  rw [writeString, List.append_assoc]
  change readMember (fuel + 1) ('"' :: quoted) = _
  rw [readMember, hname]
  dsimp only
  rw [hcolon]
  split
  · rename_i hempty
    cases hempty
  · rename_i heq
    cases heq
    rw [hvalue]
  · rename_i hother
    exact absurd rfl (hother characters)

/-! ## Values -/

theorem endsValue_writeItems (items : List Json) (rest : List Char) :
    EndsValue (writeItems items ++ rest) := by
  cases items with
  | nil =>
    rintro _ ⟨⟩
    exact .inr (.inl rfl)
  | cons item others =>
    rintro _ ⟨⟩
    exact .inl rfl

theorem endsValue_writeMembers (members : List (String × Json)) (rest : List Char) :
    EndsValue (writeMembers members ++ rest) := by
  cases members with
  | nil =>
    rintro _ ⟨⟩
    exact .inr (.inr rfl)
  | cons member others =>
    rintro _ ⟨⟩
    exact .inl rfl

/-- A whole number of 64 bits is read where it may end. -/
theorem readValue_integer (fuel : Nat) {value : Int} (hleast : -9223372036854775808 ≤ value)
    (hgreatest : value ≤ 18446744073709551615) {rest : List Char} (hends : EndsValue rest) :
    readValue (fuel + 1) (writeNumber (.integer value) ++ rest) =
      (.number (some (.integer value)), .ok rest) := by
  rcases integer_cases value with ⟨number, rfl⟩ | ⟨number, hpositive, rfl⟩
  · obtain ⟨first, others, hdigit, hsplit⟩ := toDigits_eq_cons number
    have hfits : number < wordLimit := by
      rw [wordLimit]
      omega
    rw [writeNumber_natural, hsplit, List.cons_append, readValue_digit fuel hdigit,
      ← List.cons_append, ← hsplit, readNumber_toDigits false number hends,
      numberOf_toDigits hfits Bool.noConfusion]
    rfl
  · have hfits : number < wordLimit := by
      rw [wordLimit]
      omega
    have hsigned : number ≠ 0 ∧ 2 * number ≤ wordLimit := by
      rw [wordLimit]
      omega
    rw [writeNumber_negative hpositive]
    change numberSource (readNumber true (Nat.toDigits 10 number ++ rest)) = _
    rw [readNumber_toDigits true number hends, numberOf_toDigits hfits fun _ => hsigned]
    rfl

/-- Behind the first character of what is left to read, there is fuel enough for the rest. -/
theorem exists_fuel {first : Char} {others : List Char} {fuel : Nat}
    (hfuel : 3 * (first :: others).length ≤ fuel) :
    ∃ left, fuel = left + 3 ∧ 3 * others.length ≤ left := by
  rw [List.length_cons] at hfuel
  exact ⟨fuel - 3, by omega, by omega⟩

mutual

/-- The text of a value is read as its source, where the value may end. -/
theorem readValue_write : ∀ (json : Json) {fuel : Nat} {rest : List Char}, json.IsFloatless →
    EndsValue rest → 3 * (write json).length ≤ fuel →
      readValue fuel (write json ++ rest) = (ofJson json, .ok rest)
  | .null, fuel, rest, _, _, hfuel | .bool true, fuel, rest, _, _, hfuel
  | .bool false, fuel, rest, _, _, hfuel | .array [], fuel, rest, _, _, hfuel
  | .object [], fuel, rest, _, _, hfuel => by
    obtain ⟨left, rfl, _⟩ := exists_fuel hfuel
    rfl
  | .number value, fuel, rest, hfloatless, hends, hfuel => by
    obtain ⟨first, others, hsplit, _⟩ := write_eq_cons hfloatless
    rw [hsplit] at hfuel
    obtain ⟨left, rfl, _⟩ := exists_fuel hfuel
    cases hfloatless with
    | integer hleast hgreatest => exact readValue_integer (left + 2) hleast hgreatest hends
  | .string text, fuel, rest, _, _, hfuel => by
    obtain ⟨left, rfl, _⟩ := exists_fuel hfuel
    rw [write, writeString, List.append_assoc]
    change readValue (left + 3) ('"' :: (text.toList.flatMap written ++ '"' :: rest)) = _
    rw [readValue_string, readString_written]
    rfl
  | .array (item :: items), fuel, rest, .array hitems, _, hfuel => by
    simp only [write, List.cons_append, List.append_assoc] at hfuel ⊢
    obtain ⟨left, rfl, hleft⟩ := exists_fuel hfuel
    rw [List.forall_mem_cons] at hitems
    rw [List.length_append] at hleft
    rw [readValue_array, readItems_first _ hitems.1,
      readItem_ok (readValue_write item hitems.1 (endsValue_writeItems items rest) (by omega)),
      readItems_write items hitems.2 (by omega)]
    rfl
  | .object ((name, value) :: members), fuel, rest, .object hmembers, _, hfuel => by
    simp only [write, List.cons_append, List.append_assoc] at hfuel ⊢
    obtain ⟨left, rfl, hleft⟩ := exists_fuel hfuel
    rw [List.forall_mem_cons] at hmembers
    simp only [List.length_append, List.length_cons] at hleft
    have hvalue := readValue_write value hmembers.1 (endsValue_writeMembers members rest)
      (show 3 * (write value).length ≤ left by omega)
    rw [readValue_object, readMembers_first, readMember_ok hvalue,
      readMembers_write members hmembers.2 (by omega)]
    rfl

theorem readItems_write : ∀ (items : List Json) {fuel : Nat} {rest : List Char},
    (∀ item ∈ items, item.IsFloatless) → 3 * (writeItems items).length ≤ fuel →
      readItems fuel false (writeItems items ++ rest) = (ofItems items, none, .ok rest)
  | [], fuel, rest, _, hfuel => by
    obtain ⟨left, rfl, _⟩ := exists_fuel hfuel
    rfl
  | item :: items, fuel, rest, hitems, hfuel => by
    simp only [writeItems, List.cons_append, List.append_assoc] at hfuel ⊢
    obtain ⟨left, rfl, hleft⟩ := exists_fuel hfuel
    rw [List.forall_mem_cons] at hitems
    rw [List.length_append] at hleft
    rw [readItems_next _ hitems.1,
      readItem_ok (readValue_write item hitems.1 (endsValue_writeItems items rest) (by omega)),
      readItems_write items hitems.2 (by omega)]
    rfl

theorem readMembers_write : ∀ (members : List (String × Json)) {fuel : Nat} {rest : List Char},
    (∀ member ∈ members, member.2.IsFloatless) → 3 * (writeMembers members).length ≤ fuel →
      readMembers fuel false (writeMembers members ++ rest) =
        (JsonSource.ofMembers members, none, .ok rest)
  | [], fuel, rest, _, hfuel => by
    obtain ⟨left, rfl, _⟩ := exists_fuel hfuel
    rfl
  | (name, value) :: members, fuel, rest, hmembers, hfuel => by
    simp only [writeMembers, List.cons_append, List.append_assoc] at hfuel ⊢
    obtain ⟨left, rfl, hleft⟩ := exists_fuel hfuel
    rw [List.forall_mem_cons] at hmembers
    simp only [List.length_append, List.length_cons] at hleft
    have hvalue := readValue_write value hmembers.1 (endsValue_writeMembers members rest)
      (show 3 * (write value).length ≤ left + 1 by omega)
    rw [readMembers_next, readMember_ok hvalue, readMembers_write members hmembers.2 (by omega)]
    rfl

end

/-- The whole text of a value is read as its source, with nothing after it. -/
theorem read_text {json : Json} (hfloatless : json.IsFloatless) :
    read json.text = (ofJson json, none) := by
  have hends : EndsValue [] := by
    rintro _ ⟨⟩
  have hvalue := readValue_write json hfloatless hends
    (show 3 * (write json).length ≤ 3 * (write json).length + 3 by omega)
  rw [List.append_nil] at hvalue
  rw [read, text, String.toList_ofList, hvalue]
  rfl

end Reader

end Json

/-- A text can hold a value at a place: the value is without floats and not nested too deeply. -/
structure JsonPlace.Carries (place : JsonPlace) (json : Json) : Prop where
  floatless : json.IsFloatless
  fits : place.Fits json

namespace JsonPlace.Carries

variable {place inner : JsonPlace}

theorem null : place.Carries .null :=
  ⟨.null, .null place⟩

theorem bool (value : Bool) : place.Carries (.bool value) :=
  ⟨.bool value, .bool place value⟩

theorem string (text : String) : place.Carries (.string text) :=
  ⟨.string text, .string place text⟩

theorem integer {value : Int} (hleast : -9223372036854775808 ≤ value)
    (hgreatest : value ≤ 18446744073709551615) : place.Carries (.int value) :=
  ⟨.integer hleast hgreatest, .number place _⟩

theorem array {items : List Json} (henter : place.enter = .ok inner)
    (hitems : ∀ item ∈ items, inner.Carries item) : place.Carries (.array items) :=
  ⟨.array fun item hmem => (hitems item hmem).floatless,
    .array henter fun item hmem => (hitems item hmem).fits⟩

theorem map {α : Type} {encode : α → Json} {values : List α} (henter : place.enter = .ok inner)
    (hvalues : ∀ value ∈ values, inner.Carries (encode value)) :
    place.Carries (.array (values.map encode)) := by
  apply array henter
  intro item hmem
  obtain ⟨value, hvalue, rfl⟩ := List.mem_map.1 hmem
  exact hvalues value hvalue

theorem ofMembers {members : List (String × Json)} (henter : place.enter = .ok inner)
    (hmembers : ∀ member ∈ members, inner.Carries member.2) :
    place.Carries (.ofMembers members) := by
  have hsorted : ∀ member ∈ (SortedMap.ofList members).entries, inner.Carries member.2 :=
    fun member hmem => hmembers member (SortedMap.mem_of_mem_ofList hmem)
  rw [Json.ofMembers_eq]
  exact ⟨.object fun member hmem => (hsorted member hmem).floatless,
    .object henter fun member hmem => (hsorted member hmem).fits⟩

theorem ofOption {α : Type} {encode : α → Json} {value? : Option α}
    (hcarries : ∀ value ∈ value?, place.Carries (encode value)) :
    place.Carries (.ofOption encode value?) := by
  cases value? with
  | none => exact null
  | some value => exact hcarries value rfl

end JsonPlace.Carries

namespace Decoder

/-- What a decoder reads from a value, it reads from the text of that value. -/
theorem Reads.ofWholeText {α : Type} {decode : Decoder α} {json : Json} {value : α}
    (hreads : decode.Reads json value) (hcarries : JsonPlace.ofText.Carries json) :
    ofWholeText decode json.text = .ok value := by
  rw [Decoder.ofWholeText, Json.Reader.read_text hcarries.floatless]
  dsimp only
  rw [hreads .ofText hcarries.fits]
  rfl

end Decoder

end Stockroom
