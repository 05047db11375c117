import Stockroom.Json.DecodeError
import Stockroom.Time.Rfc3339
import Stockroom.Uuid

/-!
# Decoders

A decoder turns a JSON source into a value of a domain type, or says what is
wrong with the first part of the source that is not as it should be.
-/

namespace Stockroom

/-- Where a decoder stands: whether its source is being read from a text, and how many arrays
and objects are open around it. -/
structure JsonPlace where
  fromText : Bool
  depth : Nat

/-- Reads a value of a type at a place in a source. -/
abbrev Decoder (α : Type) := JsonPlace → JsonSource → Except DecodeError α

namespace JsonPlace

/-- The place of a whole text. -/
def ofText : JsonPlace := ⟨true, 0⟩

/-- The place of a whole value. -/
def ofValue : JsonPlace := ⟨false, 0⟩

/-- A text may nest this many arrays and objects. -/
def maximumDepth : Nat := 127

/-- The place of the parts of an array or object. -/
def enter (place : JsonPlace) : Except DecodeError JsonPlace :=
  if place.fromText ∧ maximumDepth ≤ place.depth then .error (.flaw .grammar)
  else .ok { place with depth := place.depth + 1 }

end JsonPlace

namespace Decoder

def ofFlaw {α : Type} (result : Except JsonFlaw α) : Except DecodeError α :=
  result.mapError .flaw

/-- What stands at the start of a source, for a decoder that expects something else. -/
def found : JsonSource → Except DecodeError JsonFound
  | .null => .ok .null
  | .bool value => .ok (.bool value)
  | .number (some value) => .ok (.number value)
  | .number none => .error (.flaw .grammar)
  | .string text => ofFlaw (text.map .string)
  | .array _ _ => .ok .sequence
  | .object _ _ => .ok .map
  | .missing | .unfinished => .error (.flaw .ending)
  | .broken flaw => .error (.flaw flaw)

def mismatch {α : Type} (expected : String) (source : JsonSource) : Except DecodeError α := do
  throw (.wrongType (← found source) expected)

def stringAs (expected : String) : Decoder String := fun _ source =>
  match source with
  | .string text => ofFlaw text
  | other => mismatch expected other

def string : Decoder String :=
  stringAs "a string"

/-- A whole number between two bounds. -/
def integer (expected : String) (least greatest : Int) : Decoder Int := fun _ source =>
  match source with
  | .number (some (.integer value)) =>
    if least ≤ value ∧ value ≤ greatest then .ok value
    else .error (.wrongValue (.number (.integer value)) expected)
  | other => mismatch expected other

def int64 : Decoder Int :=
  integer "i64" (-9223372036854775808) 9223372036854775807

def int32 : Decoder Int :=
  integer "i32" (-2147483648) 2147483647

def natural (expected : String) (greatest : Int) : Decoder Nat := fun place source =>
  (integer expected 0 greatest place source).map Int.toNat

def word64 : Decoder Nat :=
  natural "u64" 18446744073709551615

def word32 : Decoder Nat :=
  natural "u32" 4294967295

def bool : Decoder Bool := fun _ source =>
  match source with
  | .bool value => .ok value
  | other => mismatch "a boolean" other

def unit : Decoder Unit := fun _ source =>
  match source with
  | .null => .ok ()
  | other => mismatch "unit" other

/-- Reads null as the absence of a value. -/
def option {α : Type} (decode : Decoder α) : Decoder (Option α) := fun place source =>
  match source with
  | .null => .ok none
  | other => (decode place other).map some

/-- Decodes and then converts, where the conversion may refuse what was decoded. -/
def refine {α β : Type} (decode : Decoder α) (convert : α → Except String β) : Decoder β :=
  fun place source => do
    let value ← decode place source
    (convert value).mapError .refused

def uuid : Decoder Uuid :=
  refine (stringAs "a formatted UUID string") (fun text =>
    (Uuid.ofText text).mapError (fun flaw => "UUID parsing failed: " ++ flaw.message))

def instant : Decoder Instant :=
  refine (stringAs "an RFC 3339 formatted date and time string") (fun text =>
    (Rfc3339.ofText text).mapError Rfc3339.Flaw.message)

/-- Decodes the items of an array in their order. -/
def items {α : Type} (decode : Decoder α) (place : JsonPlace) :
    List JsonSource → Except DecodeError (List α)
  | [] => .ok []
  | first :: rest => do
    let value ← decode place first
    return value :: (← items decode place rest)

def list {α : Type} (decode : Decoder α) : Decoder (List α) := fun place source =>
  match source with
  | .array sources flaw => do
    let inner ← place.enter
    let values ← items decode inner sources
    ofFlaw (JsonSource.finish flaw)
    return values
  | other => mismatch "a sequence" other

/-- Nothing may follow the one member of a variant. -/
def closeVariant (rest : List (Except JsonFlaw String × JsonSource)) (flaw : Option JsonFlaw) :
    Except DecodeError Unit :=
  if rest.isEmpty then ofFlaw (JsonSource.finish flaw) else .error (.flaw .grammar)

def variantNamed {α : Type} (variants : List (String × α)) (name : String) :
    Except DecodeError α :=
  match variants.lookup name with
  | some value => .ok value
  | none => .error (.unknownVariant name (variants.map Prod.fst))

/-- A variant without content: its name alone, or the name as the one member of an object whose
value is null. -/
def variant {α : Type} (variants : List (String × α)) : Decoder α := fun place source =>
  match source with
  | .string name => do
    variantNamed variants (← ofFlaw name)
  | .object members flaw => do
    let inner ← place.enter
    match members with
    | [] =>
      ofFlaw (JsonSource.finish flaw)
      if place.fromText then throw (.flaw .grammar)
      else throw (.wrongValue .map "map with a single key")
    | (name, content) :: rest =>
      if !place.fromText && !rest.isEmpty then throw (.wrongValue .map "map with a single key")
      let value ← variantNamed variants (← ofFlaw name)
      unit inner content
      closeVariant rest flaw
      return value
  | .missing => .error (.flaw .ending)
  | other => if place.fromText then .error (.flaw .grammar) else mismatch "string or map" other

mutual

/-- Any JSON value; of two members of one name the later one counts. -/
def json : Decoder Json
  | _, .null => .ok .null
  | _, .bool value => .ok (.bool value)
  | _, .number (some value) => .ok (.number value)
  | _, .number none => .error (.flaw .grammar)
  | _, .string text => ofFlaw (text.map .string)
  | place, .array sources flaw => do
    let inner ← place.enter
    let values ← jsonItems inner sources
    ofFlaw (JsonSource.finish flaw)
    return .array values
  | place, .object sources flaw => do
    let inner ← place.enter
    let members ← jsonMembers inner sources
    ofFlaw (JsonSource.finish flaw)
    return Json.ofMembers members
  | _, .missing | _, .unfinished => .error (.flaw .ending)
  | _, .broken flaw => .error (.flaw flaw)

def jsonItems : JsonPlace → List JsonSource → Except DecodeError (List Json)
  | _, [] => .ok []
  | place, first :: rest => do
    let value ← json place first
    return value :: (← jsonItems place rest)

def jsonMembers : JsonPlace → List (Except JsonFlaw String × JsonSource) →
    Except DecodeError (List (String × Json))
  | _, [] => .ok []
  | place, (name, source) :: rest => do
    let name ← ofFlaw name
    let value ← json place source
    return (name, value) :: (← jsonMembers place rest)

end

end Decoder

end Stockroom
