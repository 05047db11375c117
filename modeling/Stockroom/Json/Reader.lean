import Stockroom.Json.Source

/-!
# Reading JSON texts

A text is read into the source that a reader going through it meets.  Reading
needs no type: what a type makes of the source is the decoder's part.
-/

namespace Stockroom.Json.Reader

/-- What follows a value, unless the text is not JSON up to there. -/
abbrev Rest := Except JsonFlaw (List Char)

def skipSpace (characters : List Char) : List Char :=
  characters.dropWhile (fun character =>
    character = ' ' || character = '\n' || character = '\t' || character = '\r')

/-- A piece of a string: a character, or one of the 16-bit units that escapes write. -/
inductive Piece where
  | plain (character : Char)
  | unit (code : Nat)

def hexValue? (character : Char) : Option Nat :=
  let code := character.toNat
  if 48 ≤ code ∧ code ≤ 57 then some (code - 48)
  else if 97 ≤ code ∧ code ≤ 102 then some (code - 87)
  else if 65 ≤ code ∧ code ≤ 70 then some (code - 55)
  else none

/-- The character behind a backslash stands for this one. -/
def escaped? : Char → Option Char
  | '"' => some '"'
  | '\\' => some '\\'
  | '/' => some '/'
  | 'b' => some '\x08'
  | 'f' => some '\x0c'
  | 'n' => some '\n'
  | 'r' => some '\r'
  | 't' => some '\t'
  | _ => none

def byteCount (characters : List Char) : Nat :=
  characters.foldl (fun count character => count + character.utf8Size) 0

/-- The pieces of a string up to its closing quote, and what follows the quote. -/
def pieces : List Char → List Piece × Rest
  | [] => ([], .error .ending)
  | '"' :: rest => ([], .ok rest)
  | '\\' :: 'u' :: first :: second :: third :: fourth :: rest =>
    match hexValue? first, hexValue? second, hexValue? third, hexValue? fourth with
    | some a, some b, some c, some d =>
      let (later, after) := pieces rest
      (.unit (((a * 16 + b) * 16 + c) * 16 + d) :: later, after)
    | _, _, _, _ => ([], .error .grammar)
  | '\\' :: 'u' :: short => ([], .error (if byteCount short < 4 then .ending else .grammar))
  | ['\\'] => ([], .error .ending)
  | '\\' :: character :: rest =>
    match escaped? character with
    | some meant =>
      let (later, after) := pieces rest
      (.plain meant :: later, after)
    | none => ([], .error .grammar)
  | character :: rest =>
    if character.toNat < 0x20 then ([], .error .grammar)
    else
      let (later, after) := pieces rest
      (.plain character :: later, after)

def isLeading (code : Nat) : Bool := 0xD800 ≤ code && code ≤ 0xDBFF

def isTrailing (code : Nat) : Bool := 0xDC00 ≤ code && code ≤ 0xDFFF

/-- The characters of a string's pieces.  Units beyond the first plane come in pairs, the
leading half first. -/
def assemble (closing : Rest) : List Piece → Except JsonFlaw (List Char)
  | [] => closing.map (fun _ => [])
  | .plain character :: rest => do
    return character :: (← assemble closing rest)
  | .unit code :: rest =>
    if isTrailing code then .error .grammar
    else if isLeading code then
      match rest with
      | .unit second :: others =>
        if isTrailing second then do
          let scalar := 0x10000 + (code - 0xD800) * 0x400 + (second - 0xDC00)
          return Char.ofNat scalar :: (← assemble closing others)
        else .error .grammar
      | .plain _ :: _ => .error .grammar
      | [] => match closing with
        | .ok _ => .error .grammar
        | .error flaw => .error flaw
    else do
      return Char.ofNat code :: (← assemble closing rest)

/-- The text of a string whose opening quote has been read, and what follows it. -/
def readString (characters : List Char) : Except JsonFlaw String × Rest :=
  let (found, after) := pieces characters
  ((assemble after found).map String.ofList, after)

/-- The numbers below this one fit 64 bits. -/
def wordLimit : Nat := 18446744073709551616

/-- Digits are kept as long as their number fits 64 bits; the count is of those dropped. -/
def keepDigits (kept : Nat) : (dropped : Nat) → List Char → Nat × Nat
  | dropped, [] => (kept, dropped)
  | dropped, digit :: rest =>
    let longer := kept * 10 + (digit.toNat - 48)
    if dropped = 0 ∧ longer < wordLimit then keepDigits longer 0 rest
    else keepDigits kept (dropped + 1) rest

/-- The value of a number's digits, fraction digits and exponent. -/
def numberOf (negative : Bool) (whole fraction : List Char) (exponent : Option Int) :
    Option JsonNumber :=
  let (digits, dropped) := keepDigits 0 0 whole
  if fraction.isEmpty ∧ exponent.isNone ∧ dropped = 0 ∧
      (negative → digits ≠ 0 ∧ 2 * digits ≤ wordLimit) then
    some (.integer (if negative then -(digits : Int) else digits))
  else
    let (longer, unused) := keepDigits digits 0 fraction
    let shift : Int := (dropped : Int) - (fraction.length - unused : Nat)
    (Binary64.ofDecimal? negative longer (shift + exponent.getD 0)).map .real

def digitsOf (characters : List Char) : List Char × List Char :=
  characters.span Char.isDigit

/-- The fraction digits after a point, if there is one. -/
def readFraction (characters : List Char) : Except JsonFlaw (List Char × List Char) :=
  match characters with
  | '.' :: rest =>
    match digitsOf rest with
    | ([], []) => .error .ending
    | ([], _) => .error .grammar
    | found => .ok found
  | _ => .ok ([], characters)

def readExponentDigits (sign : Int) (characters : List Char) :
    Except JsonFlaw (Option Int × List Char) :=
  match digitsOf characters with
  | ([], []) => .error .ending
  | ([], _) => .error .grammar
  | (digits, rest) =>
    let size : Nat := digits.foldl (fun number digit => number * 10 + (digit.toNat - 48)) 0
    .ok (some (sign * (size : Int)), rest)

def readExponent (characters : List Char) : Except JsonFlaw (Option Int × List Char) :=
  match characters with
  | mark :: rest =>
    if mark = 'e' ∨ mark = 'E' then
      match rest with
      | '+' :: digits => readExponentDigits 1 digits
      | '-' :: digits => readExponentDigits (-1) digits
      | digits => readExponentDigits 1 digits
    else .ok (none, characters)
  | [] => .ok (none, characters)

/-- A number whose sign has been read, and what follows it. -/
def readNumber (negative : Bool) (characters : List Char) :
    Except JsonFlaw (Option JsonNumber × List Char) := do
  match digitsOf characters with
  | ([], []) => .error .ending
  | ([], _) => .error .grammar
  | (whole, rest) =>
    if whole.head? = some '0' ∧ whole.length ≠ 1 then .error .grammar
    let (fraction, rest) ← readFraction rest
    let (exponent, rest) ← readExponent rest
    return (numberOf negative whole fraction exponent, rest)

/-- The rest of a word, which has to be as given. -/
def readWord : (expected : List Char) → List Char → Rest
  | [], rest => .ok rest
  | _ :: _, [] => .error .ending
  | wanted :: others, character :: rest =>
    if character = wanted then readWord others rest else .error .grammar

def wordSource (value : JsonSource) (after : Rest) : JsonSource × Rest :=
  match after with
  | .ok rest => (value, .ok rest)
  | .error flaw => (.broken flaw, .error flaw)

def numberSource (found : Except JsonFlaw (Option JsonNumber × List Char)) : JsonSource × Rest :=
  match found with
  | .ok (value, rest) => (.number value, .ok rest)
  | .error .ending => (.unfinished, .error .ending)
  | .error .grammar => (.broken .grammar, .error .grammar)

def missingSource : JsonSource × Rest :=
  (.missing, .error .ending)

mutual

/-- One value and what follows it.  The fuel bounds the number of values that begin. -/
def readValue : (fuel : Nat) → List Char → JsonSource × Rest
  | 0, _ => missingSource
  | fuel + 1, characters =>
    match skipSpace characters with
    | [] => missingSource
    | 'n' :: rest => wordSource .null (readWord ['u', 'l', 'l'] rest)
    | 't' :: rest => wordSource (.bool true) (readWord ['r', 'u', 'e'] rest)
    | 'f' :: rest => wordSource (.bool false) (readWord ['a', 'l', 's', 'e'] rest)
    | '"' :: rest =>
      let (text, after) := readString rest
      (.string text, after)
    | '-' :: rest => numberSource (readNumber true rest)
    | '[' :: rest =>
      let (items, flaw, after) := readItems fuel true rest
      (.array items flaw, after)
    | '\x7b' :: rest =>
      let (members, flaw, after) := readMembers fuel true rest
      (.object members flaw, after)
    | character :: rest =>
      if character.isDigit then numberSource (readNumber false (character :: rest))
      else (.broken .grammar, .error .grammar)

/-- The items of an array up to its end. -/
def readItems : (fuel : Nat) → (first : Bool) → List Char →
    List JsonSource × Option JsonFlaw × Rest
  | 0, _, _ => ([], some .ending, .error .ending)
  | fuel + 1, first, characters =>
    match skipSpace characters with
    | [] => ([], some .ending, .error .ending)
    | ']' :: rest => ([], none, .ok rest)
    | character :: rest =>
      if first then readItem fuel (character :: rest)
      else if character = ',' then
        match skipSpace rest with
        | ']' :: _ => ([.broken .grammar], some .grammar, .error .grammar)
        | others => readItem fuel others
      else ([], some .grammar, .error .grammar)

/-- One item of an array and those that follow it. -/
def readItem : (fuel : Nat) → List Char → List JsonSource × Option JsonFlaw × Rest
  | 0, _ => ([.missing], some .ending, .error .ending)
  | fuel + 1, characters =>
    match readValue fuel characters with
    | (item, .ok rest) =>
      let (items, flaw, after) := readItems fuel false rest
      (item :: items, flaw, after)
    | (item, .error flaw) => ([item], some flaw, .error flaw)

/-- The members of an object up to its end. -/
def readMembers : (fuel : Nat) → (first : Bool) → List Char →
    List (Except JsonFlaw String × JsonSource) × Option JsonFlaw × Rest
  | 0, _, _ => ([], some .ending, .error .ending)
  | fuel + 1, first, characters =>
    match skipSpace characters with
    | [] => ([], some .ending, .error .ending)
    | '\x7d' :: rest => ([], none, .ok rest)
    | character :: rest =>
      if first then readMember fuel (character :: rest)
      else if character = ',' then readMember fuel (skipSpace rest)
      else ([], some .grammar, .error .grammar)

/-- One member of an object, its name first, and those that follow it. -/
def readMember : (fuel : Nat) → List Char →
    List (Except JsonFlaw String × JsonSource) × Option JsonFlaw × Rest
  | 0, _ => ([(.error .ending, .missing)], some .ending, .error .ending)
  | fuel + 1, characters =>
    match characters with
    | [] => ([(.error .ending, .missing)], some .ending, .error .ending)
    | '"' :: rest =>
      match readString rest with
      | (name, .error flaw) => ([(name, .broken flaw)], some flaw, .error flaw)
      | (name, .ok afterName) =>
        match skipSpace afterName with
        | [] => ([(name, .missing)], some .ending, .error .ending)
        | ':' :: rest =>
          match readValue fuel rest with
          | (value, .ok rest) =>
            let (members, flaw, after) := readMembers fuel false rest
            ((name, value) :: members, flaw, after)
          | (value, .error flaw) => ([(name, value)], some flaw, .error flaw)
        | _ => ([(name, .broken .grammar)], some .grammar, .error .grammar)
    | _ => ([(.error .grammar, .broken .grammar)], some .grammar, .error .grammar)

end

/-- The source of a whole text, and what is wrong after it if anything is. -/
def read (text : String) : JsonSource × Option JsonFlaw :=
  let characters := text.toList
  match readValue (3 * characters.length + 3) characters with
  | (source, .error flaw) => (source, some flaw)
  | (source, .ok rest) => (source, if (skipSpace rest).isEmpty then none else some .grammar)

end Stockroom.Json.Reader
