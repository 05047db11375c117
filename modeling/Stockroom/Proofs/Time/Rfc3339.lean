import Stockroom.Proofs.Time.Calendar
import Stockroom.Time.Rfc3339

/-!
# RFC 3339 texts read back

Every field of a written text ends where its digits end, so each is read back
as it was written, and the fields make the instant again.
-/

namespace Stockroom.Rfc3339

open Calendar (Date)

/-! ## Digits -/

theorem toList_padded (width number : Nat) : (padded width number).toList =
    List.replicate (width - (Nat.toDigits 10 number).length) '0' ++ Nat.toDigits 10 number := by
  simp only [padded, Nat.toString_eq_ofList_toDigits, String.toList_append, String.toList_ofList,
    String.length_ofList]

theorem isDigit_of_mem_padded {width number : Nat} {character : Char}
    (hmem : character ∈ (padded width number).toList) : character.isDigit = true := by
  rw [toList_padded, List.mem_append] at hmem
  cases hmem with
  | inl hzero =>
    rw [List.eq_of_mem_replicate hzero]
    rfl
  | inr hdigit => exact Nat.isDigit_of_mem_toDigits (by decide) (by decide) hdigit

theorem ofDigitChars_padded (width number : Nat) :
    Nat.ofDigitChars 10 (padded width number).toList 0 = number := by
  rw [toList_padded, Nat.ofDigitChars_append, Nat.ofDigitChars_replicate_zero, Nat.mul_zero]
  exact Nat.ofDigitChars_ten_toDigits

theorem length_padded {width number : Nat} (hwidth : 0 < width) (hfits : number < 10 ^ width) :
    (padded width number).toList.length = width := by
  have hshort : (Nat.toDigits 10 number).length ≤ width :=
    (Nat.length_toDigits_le_iff (by decide) hwidth).2 hfits
  rw [toList_padded, List.length_append, List.length_replicate]
  exact Nat.sub_add_cancel hshort

theorem padded_ne_nil (width number : Nat) : (padded width number).toList ≠ [] := by
  rw [toList_padded]
  exact List.append_ne_nil_of_right_ne_nil _ Nat.toDigits_ne_nil

/-- A written number starts with a digit. -/
theorem padded_eq_cons (width number : Nat) : ∃ first others, first.isDigit = true ∧
    (padded width number).toList = first :: others := by
  obtain ⟨first, others, hsplit⟩ := List.exists_cons_of_ne_nil (padded_ne_nil width number)
  have hmem : first ∈ (padded width number).toList := hsplit ▸ List.mem_cons_self
  exact ⟨first, others, isDigit_of_mem_padded hmem, hsplit⟩

theorem isSpace_of_isDigit {character : Char} (hdigit : character.isDigit = true) :
    Text.isSpace character = false := by
  have hcode : 48 ≤ character.toNat ∧ character.toNat ≤ 57 := by
    simpa [Char.isDigit, UInt32.le_iff_toNat_le] using hdigit
  simp only [Text.isSpace, Bool.or_eq_false_iff, Bool.and_eq_false_iff, decide_eq_false_iff_not,
    beq_eq_false_iff_ne]
  omega

/-- The value of a run of digits, read digit by digit. -/
theorem foldl_digits (run : List Char) :
    run.foldl (fun number character => number * 10 + (character.toNat - 48)) 0 =
      Nat.ofDigitChars 10 run 0 := by
  rw [Nat.ofDigitChars_eq_foldl]
  congr 1
  funext number character
  rw [Nat.mul_comm]
  rfl

/-! ## Scanning -/

theorem run_bind_of_ok {α β : Type} {scan : Scan α} {next : α → Scan β} {value : α}
    {characters rest : List Char} (hscan : scan.run characters = .ok (value, rest)) :
    (scan >>= next).run characters = (next value).run rest := by
  rw [StateT.run_bind, hscan]
  rfl

/-- The digits at the front of a text, where something else follows them. -/
theorem takeWhile_digits {run rest : List Char}
    (hdigits : ∀ character ∈ run, character.isDigit = true)
    (hends : ∀ mark ∈ rest.head?, mark.isDigit = false) :
    (run ++ rest).takeWhile Char.isDigit = run := by
  rw [List.takeWhile_append_of_pos hdigits]
  cases rest with
  | nil => simp
  | cons mark rest => simp [hends mark rfl]

/-- A run of digits that ends is read as its number. -/
theorem run_digits {width : Option Nat} {run rest : List Char}
    (hdigits : ∀ character ∈ run, character.isDigit = true) (hsome : run ≠ [])
    (hfits : ∀ count ∈ width, run.length ≤ count)
    (hends : ∀ mark ∈ rest.head?, mark.isDigit = false) :
    (digits width).run (run ++ rest) = .ok (Nat.ofDigitChars 10 run 0, rest) := by
  have hread (taken : List Char) (htaken : taken = run) : ((do
      if taken.isEmpty then throw (if (run ++ rest).isEmpty then .tooShort else .invalid)
      set ((run ++ rest).drop taken.length)
      return taken.foldl (fun number character => number * 10 + (character.toNat - 48)) 0 :
        Scan Nat).run (run ++ rest)) = .ok (Nat.ofDigitChars 10 run 0, rest) := by
    rw [htaken, if_neg (by simpa using hsome), foldl_digits, List.drop_left]
    rfl
  rw [digits, run_bind_of_ok rfl]
  cases width with
  | none => exact hread _ (takeWhile_digits hdigits hends)
  | some count =>
    apply hread
    change ((run ++ rest).take count).takeWhile Char.isDigit = run
    rw [List.take_append, List.take_of_length_le (hfits count rfl)]
    apply takeWhile_digits hdigits
    intro mark hmark
    rw [List.head?_take] at hmark
    split at hmark
    · cases hmark
    · exact hends mark hmark

/-- A written number is read back, where something else follows it. -/
theorem run_digits_padded {limit : Option Nat} {width number : Nat} {rest : List Char}
    (hfits : ∀ count ∈ limit, (padded width number).toList.length ≤ count)
    (hends : ∀ mark ∈ rest.head?, mark.isDigit = false) :
    (digits limit).run ((padded width number).toList ++ rest) = .ok (number, rest) := by
  rw [run_digits (fun _ => isDigit_of_mem_padded) (padded_ne_nil width number) hfits hends,
    ofDigitChars_padded]

theorem run_skipSpace {characters : List Char}
    (hplain : ∀ first ∈ characters.head?, Text.isSpace first = false) :
    skipSpace.run characters = .ok ((), characters) := by
  have htrimmed : Text.trimStart characters = characters := by
    cases characters with
    | nil => rfl
    | cons first others => simp [Text.trimStart, hplain first rfl]
  change Except.ok ((), Text.trimStart characters) = _
  rw [htrimmed]

/-- No space is skipped before a written number. -/
theorem run_skipSpace_padded (width number : Nat) (rest : List Char) :
    skipSpace.run ((padded width number).toList ++ rest) =
      .ok ((), (padded width number).toList ++ rest) := by
  apply run_skipSpace
  obtain ⟨first, others, hdigit, hsplit⟩ := padded_eq_cons width number
  rw [hsplit]
  rintro _ ⟨⟩
  exact isSpace_of_isDigit hdigit

theorem run_field {least greatest number : Nat} {rest : List Char} (hleast : least ≤ number)
    (hgreatest : number ≤ greatest) (hfits : number < 100)
    (hends : ∀ mark ∈ rest.head?, mark.isDigit = false) :
    (field least greatest).run ((padded 2 number).toList ++ rest) = .ok (number, rest) := by
  have hlength : (padded 2 number).toList.length = 2 := length_padded (by decide) hfits
  rw [field, run_bind_of_ok (run_skipSpace_padded 2 number rest),
    run_bind_of_ok (run_digits_padded (by simp [hlength]) hends), if_neg (by omega)]
  rfl

theorem run_separator {expected : Char} (hplain : Text.isSpace expected = false)
    (rest : List Char) : (separator expected).run (expected :: rest) = .ok ((), rest) := by
  rw [separator, run_bind_of_ok (run_skipSpace (by rintro _ ⟨⟩; exact hplain)),
    run_bind_of_ok rfl]
  dsimp only
  rw [if_pos rfl]
  rfl

/-- A year of four digits is read without a sign. -/
theorem run_signedYear_plain {number : Nat} {rest : List Char} (hfits : number < 10000)
    (hends : ∀ mark ∈ rest.head?, mark.isDigit = false) :
    signedYear.run ((padded 4 number).toList ++ rest) = .ok ((number : Int), rest) := by
  have hlength : (padded 4 number).toList.length = 4 := length_padded (by decide) hfits
  obtain ⟨first, others, hdigit, hsplit⟩ := padded_eq_cons 4 number
  have hunsigned (sign : Char) (hsign : sign.isDigit = false) (after : List Char) :
      (padded 4 number).toList ++ rest ≠ sign :: after := by
    rw [hsplit]
    rintro ⟨⟩
    rw [hsign] at hdigit
    cases hdigit
  rw [signedYear, run_bind_of_ok (run_skipSpace_padded 4 number rest), run_bind_of_ok rfl]
  split
  · rename_i hsign
    exact absurd hsign (hunsigned '-' rfl _)
  · rename_i hsign
    exact absurd hsign (hunsigned '+' rfl _)
  · rw [run_bind_of_ok (run_digits_padded (by simp [hlength]) hends)]
    rfl

theorem toList_signed (text : String) : ("-" ++ text).toList = '-' :: text.toList ∧
    ("+" ++ text).toList = '+' :: text.toList := by
  simp

/-- A signed year may have any number of digits. -/
theorem run_signedYear_signed (characters : List Char) :
    signedYear.run ('-' :: characters) =
        (digits none >>= fun number => pure (-(Int.ofNat number))).run characters ∧
      signedYear.run ('+' :: characters) =
        (digits none >>= fun number => pure (Int.ofNat number)).run characters :=
  ⟨rfl, rfl⟩

/-- A year is read back, whether it is written with its sign or without. -/
theorem run_year {number : Int} {rest : List Char} (hleast : -262143 ≤ number)
    (hgreatest : number ≤ 262142) (hends : ∀ mark ∈ rest.head?, mark.isDigit = false) :
    year.run ((yearText number).toList ++ rest) = .ok (number, rest) := by
  have hdigits (digits : Nat) :
      (Rfc3339.digits none).run ((padded 4 digits).toList ++ rest) = .ok (digits, rest) :=
    run_digits_padded (by simp) hends
  have hsigned : signedYear.run ((yearText number).toList ++ rest) = .ok (number, rest) := by
    rw [yearText]
    split
    · rename_i hplain
      rw [run_signedYear_plain (by omega) hends, Int.toNat_of_nonneg hplain.1]
    · split
      · rename_i hnegative
        have hvalue : -(Int.ofNat number.natAbs) = number := by
          rw [Int.ofNat_eq_natCast]
          omega
        rw [(toList_signed _).1, List.cons_append, (run_signedYear_signed _).1,
          run_bind_of_ok (hdigits _), hvalue]
        rfl
      · rename_i hnonneg
        have hvalue : Int.ofNat number.toNat = number :=
          Int.toNat_of_nonneg (Int.not_lt.1 hnonneg)
        rw [(toList_signed _).2, List.cons_append, (run_signedYear_signed _).2,
          run_bind_of_ok (hdigits _), hvalue]
        rfl
  rw [year, run_bind_of_ok hsigned, if_neg (by omega)]
  rfl

/-- A fraction keeps nine digits at most. -/
theorem run_fraction_dot (characters : List Char) : fraction.run ('.' :: characters) = (do
    let number ← digits (some 9)
    let after ← get
    set (after.dropWhile Char.isDigit)
    return number * Nat.pow 10 (9 - (characters.length - after.length)) : Scan Nat).run
      characters := rfl

/-- A fraction counts from its first digit. -/
theorem run_fraction_padded {count number : Nat} {rest : List Char} (hsome : 0 < count)
    (hcount : count ≤ 9) (hfits : number < 10 ^ count)
    (hends : ∀ mark ∈ rest.head?, mark.isDigit = false) :
    fraction.run ('.' :: ((padded count number).toList ++ rest)) =
      .ok (number * 10 ^ (9 - count), rest) := by
  have hlength : (padded count number).toList.length = count := length_padded hsome hfits
  have hdropped : rest.dropWhile Char.isDigit = rest := by
    cases rest with
    | nil => rfl
    | cons mark rest => simp [hends mark rfl]
  rw [run_fraction_dot,
    run_bind_of_ok (run_digits_padded (by simpa [hlength] using hcount) hends),
    run_bind_of_ok rfl, run_bind_of_ok rfl, hdropped, List.length_append, hlength,
    Nat.add_sub_cancel]
  rfl

/-- A fraction is read back, however few digits it is written with. -/
theorem run_fraction {nanos : Nat} {rest : List Char} (hnanos : nanos < 1000000000)
    (hdot : ∀ mark ∈ rest.head?, mark ≠ '.')
    (hends : ∀ mark ∈ rest.head?, mark.isDigit = false) :
    fraction.run ((fractionText nanos).toList ++ rest) = .ok (nanos, rest) := by
  have hread {count number : Nat} (hsome : 0 < count) (hcount : count ≤ 9)
      (hfits : number < 10 ^ count) (hvalue : number * 10 ^ (9 - count) = nanos) :
      fraction.run (("." ++ padded count number).toList ++ rest) = .ok (nanos, rest) := by
    rw [String.toList_append]
    exact hvalue ▸ run_fraction_padded hsome hcount hfits hends
  rw [fractionText]
  split
  · rename_i hzero
    rw [hzero]
    change fraction.run rest = .ok (0, rest)
    rw [fraction, run_bind_of_ok rfl]
    split
    · exact absurd rfl (hdot _ rfl)
    · rfl
  · split
    · exact hread (by decide) (by decide) (by omega) (by omega)
    · split
      · exact hread (by decide) (by decide) (by omega) (by omega)
      · exact hread (by decide) (by decide) hnanos (Nat.mul_one nanos)

/-- What follows the seconds of a text does not start with a digit. -/
theorem isDigit_head_fractionText {nanos : Nat} {rest : List Char}
    (hends : ∀ mark ∈ rest.head?, mark.isDigit = false) :
    ∀ mark ∈ ((fractionText nanos).toList ++ rest).head?, mark.isDigit = false := by
  have hdot (text : String) : ∀ mark ∈ (("." ++ text).toList ++ rest).head?,
      mark.isDigit = false := by
    simp
  rw [fractionText]
  split
  · exact hends
  · split
    · exact hdot _
    · split
      · exact hdot _
      · exact hdot _

/-! ## Whole texts -/

/-- Fields of universal time that a text can show. -/
structure Fields.IsShown (shown : Fields) : Prop where
  year : -262143 ≤ shown.date.year ∧ shown.date.year ≤ 262142
  date : shown.date.isValid = true
  hour : shown.hour ≤ 23
  minute : shown.minute ≤ 59
  second : shown.second ≤ 60
  nanos : shown.nanos < 1000000000
  offset : shown.offset = 0

/-- The text that shows given fields. -/
def Fields.characters (shown : Fields) : List Char :=
  (yearText shown.date.year).toList ++
    '-' :: ((padded 2 shown.date.month).toList ++
    '-' :: ((padded 2 shown.date.day).toList ++
    'T' :: ((padded 2 shown.hour).toList ++
    ':' :: ((padded 2 shown.minute).toList ++
    ':' :: ((padded 2 shown.second).toList ++
    ((fractionText shown.nanos).toList ++ ['Z']))))))

/-- Fields are read back as they are shown. -/
theorem run_fields {shown : Fields} (hshown : shown.IsShown) :
    fields.run shown.characters = .ok (shown, []) := by
  obtain ⟨hmonth, hmonths, hday, hdays⟩ := Date.bounds_of_isValid hshown.date
  have hends {mark : Char} {rest : List Char} (hmark : mark.isDigit = false) :
      ∀ first ∈ (mark :: rest).head?, first.isDigit = false := by
    rintro _ ⟨⟩
    exact hmark
  have hhour := hshown.hour
  have hminute := hshown.minute
  have hsecond := hshown.second
  rw [Fields.characters, fields,
    run_bind_of_ok (run_year hshown.year.1 hshown.year.2 (hends rfl)),
    run_bind_of_ok (run_separator rfl _),
    run_bind_of_ok (run_field hmonth hmonths (by omega) (hends rfl)),
    run_bind_of_ok (run_separator rfl _),
    run_bind_of_ok (run_field hday hdays (by omega) (hends rfl)),
    run_bind_of_ok rfl]
  simp only [decide_true, Bool.true_or, if_true]
  rw [run_bind_of_ok rfl,
    run_bind_of_ok (run_field (Nat.zero_le _) hhour (by omega) (hends rfl)),
    run_bind_of_ok (run_separator rfl _),
    run_bind_of_ok (run_field (Nat.zero_le _) hminute (by omega) (hends rfl)),
    run_bind_of_ok (run_separator rfl _),
    run_bind_of_ok (run_field (Nat.zero_le _) hsecond (by omega)
      (isDigit_head_fractionText (hends rfl))),
    run_bind_of_ok (run_fraction hshown.nanos (by rintro _ ⟨⟩; decide) (hends rfl)),
    run_bind_of_ok rfl, run_bind_of_ok rfl, run_bind_of_ok rfl, run_bind_of_ok rfl]
  rw [← hshown.offset]
  rfl

/-- The fields that the text of an instant shows; a leap second is the sixtieth of its minute. -/
def fieldsOf (instant : Instant) : Fields where
  date := Date.ofDays (instant.seconds / 86400)
  hour := (instant.seconds % 86400).toNat / 3600
  minute := (instant.seconds % 86400).toNat / 60 % 60
  second := (instant.seconds % 86400).toNat % 60 + instant.nanos / 1000000000
  nanos := instant.nanos % 1000000000
  offset := 0

theorem toList_text (instant : Instant) :
    (text instant).toList = (fieldsOf instant).characters := by
  simp [text, fieldsOf, Fields.characters]

theorem isShown_fieldsOf (instant : Instant) : (fieldsOf instant).IsShown := by
  obtain ⟨hvalid, _, hyear⟩ := Calendar.ofDays_spec (instant.seconds / 86400)
  obtain ⟨hfirst, hlast, hnanos, hleap⟩ := instant.valid
  constructor
  case year =>
    simp only [fieldsOf, hyear]
    apply Calendar.yearOfDay_bounds <;> omega
  case date => exact hvalid
  case offset => rfl
  all_goals simp only [fieldsOf]; omega

/-- The fields of an instant name the instant. -/
theorem instant_fieldsOf (instant : Instant) : (fieldsOf instant).instant = .ok instant := by
  have hshown := isShown_fieldsOf instant
  obtain ⟨hfirst, hlast, hnanos, hleap⟩ := instant.valid
  have hdays : (fieldsOf instant).date.toDays = instant.seconds / 86400 :=
    (Calendar.ofDays_spec (instant.seconds / 86400)).2.1
  have hleaps : (if (fieldsOf instant).second = 60 then 1 else 0) = instant.nanos / 1000000000 := by
    by_cases hsixtieth : (fieldsOf instant).second = 60
    · rw [if_pos hsixtieth]
      simp only [fieldsOf] at hsixtieth
      omega
    · rw [if_neg hsixtieth]
      simp only [fieldsOf] at hsixtieth
      omega
  have hseconds : (fieldsOf instant).date.toDays * 86400 + (fieldsOf instant).hour * 3600 +
      (fieldsOf instant).minute * 60 +
      ((fieldsOf instant).second - instant.nanos / 1000000000 : Nat) -
      (fieldsOf instant).offset = instant.seconds := by
    rw [hdays]
    simp only [fieldsOf]
    omega
  have hnanoseconds : (fieldsOf instant).nanos + instant.nanos / 1000000000 * 1000000000 =
      instant.nanos := by
    simp only [fieldsOf]
    omega
  rw [Fields.instant]
  simp only [hleaps, hseconds, hnanoseconds, Instant.ofParts?, instant.valid, dif_pos]
  rw [if_pos]
  · rfl
  · exact ⟨hshown.year, hshown.date, by rw [hshown.offset]; decide⟩

/-- Every instant is read back from its text. -/
theorem ofText_text (instant : Instant) : ofText (text instant) = .ok instant := by
  rw [ofText, toList_text, run_fields (isShown_fieldsOf instant)]
  exact instant_fieldsOf instant

end Stockroom.Rfc3339
