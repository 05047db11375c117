import Stockroom.Text.Blank
import Stockroom.Time.Instant

/-!
# RFC 3339 texts of instants

Instants are written in universal time with the fewest of 0, 3, 6 or 9
fraction digits that lose nothing.  Reading is lenient: it admits space around
the fields, short fields, signed years and any offset, and turns the instant
into universal time.
-/

namespace Stockroom.Rfc3339

open Calendar (Date)

/-- The digits of a number, with zeros in front up to a width. -/
def padded (width number : Nat) : String :=
  let digits := toString number
  String.ofList (List.replicate (width - digits.length) '0') ++ digits

/-- Years of four digits are written plainly and all others with their sign. -/
def yearText (year : Int) : String :=
  if 0 ≤ year ∧ year ≤ 9999 then padded 4 year.toNat
  else if year < 0 then "-" ++ padded 4 year.natAbs
  else "+" ++ padded 4 year.toNat

def fractionText (nanos : Nat) : String :=
  if nanos = 0 then ""
  else if nanos % 1000000 = 0 then "." ++ padded 3 (nanos / 1000000)
  else if nanos % 1000 = 0 then "." ++ padded 6 (nanos / 1000)
  else "." ++ padded 9 nanos

/-- A leap second is written as second 60. -/
def text (instant : Instant) : String :=
  let date := Date.ofDays (instant.seconds / 86400)
  let second := (instant.seconds % 86400).toNat
  let leap := instant.nanos / 1000000000
  yearText date.year ++ "-" ++ padded 2 date.month ++ "-" ++ padded 2 date.day ++ "T" ++
    padded 2 (second / 3600) ++ ":" ++ padded 2 (second / 60 % 60) ++ ":" ++
    padded 2 (second % 60 + leap) ++ fractionText (instant.nanos % 1000000000) ++ "Z"

/-- What is wrong with a text that names no instant. -/
inductive Flaw where
  | tooShort
  | outOfRange
  | impossible
  | invalid
  | trailing
deriving DecidableEq, Repr

def Flaw.message : Flaw → String
  | .tooShort => "premature end of input"
  | .outOfRange => "input is out of range"
  | .impossible => "no possible date and time matching input"
  | .invalid => "input contains invalid characters"
  | .trailing => "trailing input"

/-- Reads something off the front of a text. -/
abbrev Scan (α : Type) := StateT (List Char) (Except Flaw) α

def skipSpace : Scan Unit :=
  modify Text.trimStart

/-- The number that the first digits stand for, at most `width` of them if a width is given. -/
def digits (width : Option Nat) : Scan Nat := do
  let characters ← get
  let run := match width with
    | some count => (characters.take count).takeWhile Char.isDigit
    | none => characters.takeWhile Char.isDigit
  if run.isEmpty then
    throw (if characters.isEmpty then .tooShort else .invalid)
  set (characters.drop run.length)
  return run.foldl (fun number character => number * 10 + (character.toNat - 48)) 0

/-- A field of at most two digits whose value has to lie between two bounds. -/
def field (least greatest : Nat) : Scan Nat := do
  skipSpace
  let number ← digits (some 2)
  if number < least ∨ greatest < number then throw .outOfRange
  return number

/-- A year has at most four digits, or a sign and any number of digits. -/
def signedYear : Scan Int := do
  skipSpace
  match ← get with
  | '-' :: rest =>
    set rest
    return -(Int.ofNat (← digits none))
  | '+' :: rest =>
    set rest
    return Int.ofNat (← digits none)
  | _ => return Int.ofNat (← digits (some 4))

def year : Scan Int := do
  let number ← signedYear
  if number < -2147483648 ∨ 2147483647 < number then throw .outOfRange
  return number

def separator (expected : Char) : Scan Unit := do
  skipSpace
  match ← get with
  | [] => throw .tooShort
  | character :: rest => if character = expected then set rest else throw .invalid

/-- The nanoseconds of a fraction, digits past the ninth being dropped. -/
def fraction : Scan Nat := do
  match ← get with
  | '.' :: rest =>
    set rest
    let before := rest.length
    let number ← digits (some 9)
    let after ← get
    set (after.dropWhile Char.isDigit)
    return number * Nat.pow 10 (9 - (before - after.length))
  | _ => return 0

/-- Two characters that have to be digits, and nothing else. -/
def digitPair : Scan (Nat × Nat) := do
  match ← get with
  | first :: second :: rest =>
    if first.isDigit && second.isDigit then
      set rest
      return (first.toNat - 48, second.toNat - 48)
    else throw .invalid
  | [character] => throw (if character.utf8Size < 2 then .tooShort else .invalid)
  | [] => throw .tooShort

/-- The seconds by which the named clock is ahead of universal time. -/
def offset : Scan Int := do
  let characters ← get
  if (characters.take 3).map Char.toUpper = ['U', 'T', 'C'] then
    set (characters.drop 3)
    return 0
  match characters with
  | [] => throw .tooShort
  | sign :: rest =>
    if sign = 'Z' || sign = 'z' then
      set rest
      return 0
    unless sign = '+' || sign = '-' || sign = '\u2212' do throw .invalid
    set rest
    let (hourTens, hourUnits) ← digitPair
    modify (·.dropWhile (fun character => character = ':' || Text.isSpace character))
    let (minuteTens, minuteUnits) ← digitPair
    if 6 ≤ minuteTens then throw .outOfRange
    let minutes : Int := (hourTens * 10 + hourUnits) * 60 + minuteTens * 10 + minuteUnits
    return if sign = '+' then minutes * 60 else -(minutes * 60)

/-- The fields of a text, before they are put together. -/
structure Fields where
  date : Date
  hour : Nat
  minute : Nat
  second : Nat
  nanos : Nat
  offset : Int

def fields : Scan Fields := do
  let year ← year
  separator '-'
  let month ← field 1 12
  separator '-'
  let day ← field 1 31
  match ← get with
  | [] => throw .tooShort
  | mark :: rest => if mark = 'T' || mark = 't' || mark = ' ' then set rest else throw .invalid
  let hour ← field 0 23
  separator ':'
  let minute ← field 0 59
  separator ':'
  let second ← field 0 60
  let nanos ← fraction
  skipSpace
  let offset ← offset
  skipSpace
  unless (← get).isEmpty do throw .trailing
  return ⟨⟨year, month, day⟩, hour, minute, second, nanos, offset⟩

def Fields.instant (fields : Fields) : Except Flaw Instant := do
  let inRange := -262143 ≤ fields.date.year ∧ fields.date.year ≤ 262142
  unless inRange ∧ fields.date.isValid ∧ fields.offset.natAbs < 86400 do throw .outOfRange
  let leap := if fields.second = 60 then 1 else 0
  let seconds := fields.date.toDays * 86400 + fields.hour * 3600 + fields.minute * 60 +
    (fields.second - leap : Nat) - fields.offset
  match Instant.ofParts? seconds (fields.nanos + leap * 1000000000) with
  | some instant => return instant
  | none => throw .impossible

/-- Reads the instant that a text names. -/
def ofText (source : String) : Except Flaw Instant := do
  let (fields, _) ← fields.run source.toList
  fields.instant

example : (ofText "2024-2-29t23:50:60.5+00:30").toOption.map text =
    some "2024-02-29T23:20:60.500Z" := by
  decide +kernel

example : (ofText "-0001-12-31 23:59:59Z").toOption.map text = some "-0001-12-31T23:59:59Z" := by
  decide +kernel

end Stockroom.Rfc3339
