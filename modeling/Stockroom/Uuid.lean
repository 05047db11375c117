/-!
# Universally unique ids

A 128-bit number, written as 32 hexadecimal digits in five groups.  Reading is
lenient about the spelling and precise about what is wrong with a text that is
no id.
-/

namespace Stockroom

structure Uuid where
  bits : BitVec 128
deriving DecidableEq

namespace Uuid

@[ext]
theorem ext {left right : Uuid} (hbits : left.bits = right.bits) : left = right := by
  cases left; cases right; simp_all

instance : LE Uuid :=
  ⟨fun left right => left.bits ≤ right.bits⟩

instance : LT Uuid :=
  ⟨fun left right => left.bits < right.bits⟩

instance : DecidableLT Uuid :=
  fun left right => inferInstanceAs (Decidable (left.bits < right.bits))

instance : Std.IsLinearOrder Uuid where
  le_refl id := Std.IsPreorder.le_refl id.bits
  le_trans first second third := Std.IsPreorder.le_trans first.bits second.bits third.bits
  le_antisymm left right hle hge :=
    ext (Std.IsPartialOrder.le_antisymm left.bits right.bits hle hge)
  le_total left right := Std.IsLinearPreorder.le_total left.bits right.bits

instance : Std.LawfulOrderLT Uuid where
  lt_iff left right := Std.LawfulOrderLT.lt_iff left.bits right.bits

instance : Inhabited Uuid :=
  ⟨⟨0⟩⟩

def ofNat (number : Nat) : Uuid :=
  ⟨BitVec.ofNat 128 number⟩

/-- The version nibble, which says how the id was made. -/
def version (id : Uuid) : Nat :=
  (id.bits.extractLsb' 76 4).toNat

/-- The id that carries `payload` in its free bits and is marked as drawn at random. -/
def random (payload : Nat) : Uuid :=
  ⟨BitVec.ofNat 48 (payload >>> 48) ++ BitVec.ofNat 16 0x4000 ++ BitVec.ofNat 16 0x8000 ++
    BitVec.ofNat 48 payload⟩

def hexDigit (value : Nat) : Char :=
  if value < 10 then Char.ofNat (48 + value) else Char.ofNat (87 + value)

/-- The last `count` hexadecimal digits of a number. -/
def hexDigits : (count : Nat) → (number : Nat) → List Char
  | 0, _ => []
  | count + 1, number => hexDigits count (number / 16) ++ [hexDigit (number % 16)]

/-- Five groups of lower-case digits, joined by hyphens. -/
def text (id : Uuid) : String :=
  let digits := hexDigits 32 id.bits.toNat
  String.ofList (digits.take 8 ++ '-' :: (digits.drop 8).take 4 ++ '-' :: (digits.drop 12).take 4 ++
    '-' :: (digits.drop 16).take 4 ++ '-' :: digits.drop 20)

instance : Repr Uuid :=
  ⟨fun id _ => id.text⟩

/-- What is wrong with a text that is no id. -/
inductive Flaw where
  | length (found : Nat)
  | character (found : Char) (index : Nat)
  | groupCount (found : Nat)
  | groupLength (group expected found : Nat)
deriving DecidableEq, Repr

def Flaw.message : Flaw → String
  | .length found => "invalid length: found " ++ toString found
  | .character found index =>
    "invalid character: found `" ++ String.singleton found ++ "` at " ++ toString index
  | .groupCount found => "invalid group count: expected 5, found " ++ toString found
  | .groupLength group expected found =>
    "invalid group length in group " ++ toString group ++ ": expected " ++ toString expected ++
      ", found " ++ toString found

def hexValue? (character : Char) : Option Nat :=
  let code := character.toNat
  if 48 ≤ code ∧ code ≤ 57 then some (code - 48)
  else if 97 ≤ code ∧ code ≤ 102 then some (code - 87)
  else if 65 ≤ code ∧ code ≤ 70 then some (code - 55)
  else none

/-- The number that hexadecimal digits stand for. -/
def hexNumber? (digits : List Char) : Option Nat :=
  digits.foldlM (fun number character => (hexValue? character).map (number * 16 + ·)) 0

/-- The parts of a text between its hyphens. -/
def groups : List Char → List (List Char)
  | [] => [[]]
  | character :: rest =>
    if character = '-' then [] :: groups rest
    else match groups rest with
      | [] => [[character]]
      | first :: others => (character :: first) :: others

/-- The text without its braces or its `urn:uuid:` mark, in whatever case the mark is written,
and how many bytes precede it. -/
def unwrap (characters : List Char) : List Char × Nat :=
  let mark := "urn:uuid:".toList
  if 2 ≤ characters.length ∧ characters.head? = some '\x7b' ∧
      characters.getLast? = some '\x7d' then
    (characters.tail.dropLast, 1)
  else if (characters.take mark.length).map Char.toLower = mark then
    (characters.drop mark.length, mark.length)
  else (characters, 0)

/-- The characters that should be the digits of an id, the index of the first of them, and
whether they may do without hyphens. -/
structure Spelling where
  characters : List Char
  offset : Nat
  bare : Bool
deriving DecidableEq, Repr

/-- The number of bytes of five groups and the hyphens between them. -/
def groupedSize : Nat := 36

/-- How a text spells an id.  Where the groups and their hyphens would just fit, in the whole
text or inside of what is around it, indices count from their start; otherwise they count from
the start of the text. -/
def spelling (source : String) : Spelling :=
  let characters := source.toList
  let (inner, offset) := unwrap characters
  if source.utf8ByteSize = groupedSize then ⟨characters, 0, false⟩
  else if (String.ofList inner).utf8ByteSize = groupedSize then ⟨inner, 0, false⟩
  else ⟨inner, offset, offset = 0⟩

/-- The first character that is neither a hexadecimal digit nor a hyphen, with its byte index. -/
def strayCharacter? : (index : Nat) → List Char → Option (Char × Nat)
  | _, [] => none
  | index, character :: rest =>
    if character = '-' ∨ (hexValue? character).isSome then
      strayCharacter? (index + character.utf8Size) rest
    else some (character, index)

/-- The first group that has not the length it should have.  The last group counts as long as
all of the text, in bytes, less what stands before it when the text is nothing but groups. -/
def misfitGroup? (size : Nat) : (group start : Nat) → (expected : List Nat) →
    List (List Char) → Option Flaw
  | group, start, expected :: others, digits :: rest =>
    if digits.length = expected then
      misfitGroup? size (group + 1) (start + expected + 1) others rest
    else if others.isEmpty then some (.groupLength group expected (size - start))
    else some (.groupLength group expected digits.length)
  | _, _, _, _ => none

def groupLengths : List Nat := [8, 4, 4, 4, 12]

/-- Why a text is no id, if it is none. -/
def flaw? (source : String) : Option Flaw :=
  let size := source.utf8ByteSize
  let spelled := spelling source
  let parts := groups spelled.characters
  if size = 0 ∨ 45 < size then some (.length size)
  else match strayCharacter? spelled.offset spelled.characters with
    | some (character, index) => some (.character character index)
    | none =>
      if parts.length = 1 ∧ spelled.bare then
        if size = 32 then none else some (.length size)
      else if parts.length ≠ 5 then some (.groupCount parts.length)
      else misfitGroup? size 0 0 groupLengths parts

/-- Reads an id in either case, with or without hyphens, in braces or after `urn:uuid:`. -/
def ofText (source : String) : Except Flaw Uuid :=
  match flaw? source with
  | some flaw => .error flaw
  | none =>
    let digits := (spelling source).characters.filter (· ≠ '-')
    .ok (ofNat ((hexNumber? digits).getD 0))

example : (ofText "00000001-0000-4000-8000-0000000000010").toOption = none := by
  decide +kernel

example : (ofText "URN:uuid:00000001-0000-4000-8000-00000000000A").toOption.map text =
    some "00000001-0000-4000-8000-00000000000a" := by
  decide +kernel

example : flaw? "\x7b00000001-0000-4000-8000-00000000000\x7d" = some (.groupLength 4 12 13) := by
  decide +kernel

end Uuid

end Stockroom
