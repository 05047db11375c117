import Mathlib.Data.List.TakeDrop
import Stockroom.Json.Reader
import Stockroom.Json.Text

/-!
# Numbers and strings read back

A written number ends where its digits end and a written string at its closing
quote, so both are read back as they were written, whatever follows them.
-/

namespace Stockroom.Json.Reader

/-! ## Digits -/

/-- A run of digits is read up to where something else follows it. -/
theorem digitsOf_append {run rest : List Char}
    (hdigits : ∀ character ∈ run, character.isDigit = true)
    (hends : ∀ mark ∈ rest.head?, mark.isDigit = false) :
    digitsOf (run ++ rest) = (run, rest) := by
  rw [digitsOf, List.span_eq_takeWhile_dropWhile, List.takeWhile_append_of_pos hdigits,
    List.dropWhile_append_of_pos hdigits]
  cases rest with
  | nil => simp
  | cons mark others => simp [hends mark rfl]

/-- No number but zero is written with a zero in front. -/
theorem head?_toDigits_ne {number : Nat} (hpositive : 0 < number) :
    (Nat.toDigits 10 number).head? ≠ some '0' := by
  induction number using Nat.strongRecOn with
  | ind number ih =>
    by_cases hsmall : number < 10
    · have hdigit : ∀ digit < 10, 0 < digit → some (Nat.digitChar digit) ≠ some '0' := by decide
      rw [Nat.toDigits_of_lt_base hsmall]
      exact hdigit number hsmall hpositive
    · have hshorter := ih (number / 10) (by omega) (by omega)
      obtain ⟨first, others, hsplit⟩ :=
        List.exists_cons_of_ne_nil (@Nat.toDigits_ne_nil (number / 10) 10)
      rw [Nat.toDigits_of_base_le (by decide) (by omega), hsplit]
      rw [hsplit] at hshorter
      exact hshorter

/-- Reading on never makes a number smaller. -/
theorem le_ofDigitChars (run : List Char) (kept : Nat) : kept ≤ Nat.ofDigitChars 10 run kept := by
  induction run generalizing kept with
  | nil => exact Nat.le_refl kept
  | cons digit rest ih =>
    rw [Nat.ofDigitChars_cons]
    calc
      kept ≤ 10 * kept + (digit.toNat - '0'.toNat) := by omega
      _ ≤ Nat.ofDigitChars 10 rest (10 * kept + (digit.toNat - '0'.toNat)) := ih _

/-- All digits of a number that fits 64 bits are kept. -/
theorem keepDigits_eq {run : List Char} {kept : Nat}
    (hfits : Nat.ofDigitChars 10 run kept < wordLimit) :
    keepDigits kept 0 run = (Nat.ofDigitChars 10 run kept, 0) := by
  induction run generalizing kept with
  | nil => rfl
  | cons digit rest ih =>
    have hlonger : kept * 10 + (digit.toNat - 48) = 10 * kept + (digit.toNat - '0'.toNat) := by
      rw [Nat.mul_comm]
      rfl
    rw [Nat.ofDigitChars_cons] at hfits ⊢
    have hstill := Nat.lt_of_le_of_lt (le_ofDigitChars rest _) hfits
    rw [keepDigits, hlonger, if_pos ⟨rfl, hstill⟩, ih hfits]

/-! ## Numbers -/

/-- Where a value may end: nothing follows it, or what goes on with the array or object that the
value is a part of. -/
def EndsValue (rest : List Char) : Prop :=
  ∀ mark ∈ rest.head?, mark = ',' ∨ mark = ']' ∨ mark = '\x7d'

theorem readFraction_none {rest : List Char} (hends : EndsValue rest) :
    readFraction rest = .ok ([], rest) := by
  cases rest with
  | nil => rfl
  | cons mark others => rcases hends mark rfl with rfl | rfl | rfl <;> rfl

theorem readExponent_none {rest : List Char} (hends : EndsValue rest) :
    readExponent rest = .ok (none, rest) := by
  cases rest with
  | nil => rfl
  | cons mark others => rcases hends mark rfl with rfl | rfl | rfl <;> rfl

theorem numberOf_toDigits {negative : Bool} {number : Nat} (hfits : number < wordLimit)
    (hsigned : negative = true → number ≠ 0 ∧ 2 * number ≤ wordLimit) :
    numberOf negative (Nat.toDigits 10 number) [] none =
      some (.integer (if negative then -(number : Int) else number)) := by
  have hkept : keepDigits 0 0 (Nat.toDigits 10 number) = (number, 0) := by
    rw [keepDigits_eq] <;> rw [Nat.ofDigitChars_ten_toDigits]
    exact hfits
  rw [numberOf, hkept]
  exact if_pos ⟨rfl, rfl, rfl, hsigned⟩

/-- Digits are read as a whole number. -/
theorem readNumber_digits (negative : Bool) {run rest : List Char}
    (hdigits : ∀ character ∈ run, character.isDigit = true) (hsome : run ≠ [])
    (hplain : run.head? = some '0' → run.length = 1) (hends : EndsValue rest) :
    readNumber negative (run ++ rest) = .ok (numberOf negative run [] none, rest) := by
  have hspan : digitsOf (run ++ rest) = (run, rest) := by
    apply digitsOf_append hdigits
    intro mark hmark
    rcases hends mark hmark with rfl | rfl | rfl <;> rfl
  cases run with
  | nil => exact absurd rfl hsome
  | cons first others =>
    have hshort : ¬((first :: others).head? = some '0' ∧ (first :: others).length ≠ 1) :=
      fun ⟨hzero, hlonger⟩ => hlonger (hplain hzero)
    rw [readNumber, hspan]
    dsimp only
    rw [if_neg hshort, readFraction_none hends]
    change (readExponent rest >>= _) = _
    rw [readExponent_none hends]
    rfl

theorem readNumber_toDigits (negative : Bool) (number : Nat) {rest : List Char}
    (hends : EndsValue rest) :
    readNumber negative (Nat.toDigits 10 number ++ rest) =
      .ok (numberOf negative (Nat.toDigits 10 number) [] none, rest) := by
  apply readNumber_digits negative _ Nat.toDigits_ne_nil _ hends
  · exact fun _ => Nat.isDigit_of_mem_toDigits (by decide) (by decide)
  · intro hzero
    rcases Nat.eq_zero_or_pos number with rfl | hpositive
    · rfl
    · exact absurd hzero (head?_toDigits_ne hpositive)

/-! ## Strings -/

/-- The characters that stand for a character in a written string. -/
def written (character : Char) : List Char :=
  (escape? character).getD [character]

theorem hexValue?_escapeDigit : ∀ value < 16,
    hexValue? (Char.ofNat (if value < 10 then 48 + value else 87 + value)) = some value := by
  decide

/-- A control character is written as the 16-bit unit that it is. -/
theorem pieces_unit {code : Nat} (hcontrol : code < 0x20) (rest : List Char) :
    pieces (['\\', 'u', '0', '0',
        Char.ofNat (if code / 16 < 10 then 48 + code / 16 else 87 + code / 16),
        Char.ofNat (if code % 16 < 10 then 48 + code % 16 else 87 + code % 16)] ++ rest) =
      (.unit code :: (pieces rest).1, (pieces rest).2) := by
  have hfirst := hexValue?_escapeDigit (code / 16) (by omega)
  have hsecond := hexValue?_escapeDigit (code % 16) (by omega)
  have hzero : hexValue? '0' = some 0 := rfl
  have hcode : ((0 * 16 + 0) * 16 + code / 16) * 16 + code % 16 = code := by omega
  simp only [List.cons_append, List.nil_append, pieces, hfirst, hsecond, hzero, hcode]

theorem pieces_plain {character : Char} (hquote : character ≠ '"') (hbackslash : character ≠ '\\')
    (hprintable : ¬ character.toNat < 0x20) (rest : List Char) :
    pieces (character :: rest) = (.plain character :: (pieces rest).1, (pieces rest).2) := by
  rw [pieces, if_neg hprintable]
  · exact hquote
  -- What is left are the escapes, which begin with a backslash.
  all_goals intros; contradiction

/-- A written character is one piece of its string. -/
theorem pieces_written (character : Char) : ∃ piece,
    (∀ rest, pieces (written character ++ rest) = (piece :: (pieces rest).1, (pieces rest).2)) ∧
      ∀ closing others, assemble closing (piece :: others) =
        (assemble closing others).map (character :: ·) := by
  have hplain (closing : Rest) (others : List Piece) :
      assemble closing (.plain character :: others) =
        (assemble closing others).map (character :: ·) := by
    rw [assemble]
    cases assemble closing others <;> rfl
  unfold written escape?
  split
  all_goals try exact ⟨.plain _, fun _ => rfl, hplain⟩
  rename_i hquote hbackslash _ _ _ _ _
  split
  · rename_i hcontrol
    refine ⟨.unit character.toNat, pieces_unit hcontrol, fun closing others => ?_⟩
    have htrailing : isTrailing character.toNat = false := by
      simp [isTrailing]
      omega
    have hleading : isLeading character.toNat = false := by
      simp [isLeading]
      omega
    rw [assemble.eq_def]
    simp only [htrailing, hleading, Bool.false_eq_true, if_false, Char.ofNat_toNat]
    cases assemble closing others <;> rfl
  · rename_i hprintable
    exact ⟨.plain character, pieces_plain hquote hbackslash hprintable, hplain⟩

/-- The pieces of a written string make its characters again. -/
theorem assemble_pieces (characters rest : List Char) :
    (pieces (characters.flatMap written ++ '"' :: rest)).2 = .ok rest ∧
      assemble (.ok rest) (pieces (characters.flatMap written ++ '"' :: rest)).1 =
        .ok characters := by
  induction characters with
  | nil =>
    rw [List.flatMap_nil, List.nil_append, pieces]
    exact ⟨rfl, rfl⟩
  | cons character others ih =>
    obtain ⟨piece, hpiece, hassemble⟩ := pieces_written character
    rw [List.flatMap_cons, List.append_assoc, hpiece, hassemble, ih.2]
    exact ⟨ih.1, rfl⟩

/-- A written string is read as its text. -/
theorem readString_written (text : String) (rest : List Char) :
    readString (text.toList.flatMap written ++ '"' :: rest) = (.ok text, .ok rest) := by
  obtain ⟨hafter, htext⟩ := assemble_pieces text.toList rest
  rw [readString]
  dsimp only
  rw [hafter, htext]
  change (Except.ok (String.ofList text.toList), _) = _
  rw [String.ofList_toList]

end Stockroom.Json.Reader
