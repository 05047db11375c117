import Stockroom.Json.Decoder

/-!
# Record forms

How a record is written as an object, or as an array of its fields in their
order.  Unknown members are skipped.  Fields are looked at in the order of the
source, and the first one that does not decode decides; missing fields are
reported after that, in the order of the record.
-/

namespace Stockroom

/-- What it means that a field is missing. -/
inductive FieldAbsence where
  | refused
  | null
  | nullAnywhere
deriving DecidableEq, Repr

/-- A field of a record.  Only a field that may be missing anywhere may also be missing at the
end of an array. -/
structure FieldRule where
  name : String
  absence : FieldAbsence
  check : JsonPlace → JsonSource → Except DecodeError Unit

/-- The fields of a record, and the record that sources of them make. -/
structure RecordForm (α : Type) where
  fields : List FieldRule
  build : JsonPlace → (String → Option JsonSource) → Except DecodeError α

namespace RecordForm

/-- The part of a decoder that only refuses. -/
def checking {α : Type} (decode : Decoder α) : JsonPlace → JsonSource → Except DecodeError Unit :=
  fun place source => (decode place source).map (fun _ => ())

/-- A field that has to be there. -/
def field {α : Type} (name : String) (decode : Decoder α) : RecordForm α where
  fields := [⟨name, .refused, checking decode⟩]
  build place sources :=
    match sources name with
    | some source => decode place source
    | none => .error (.missingField name)

def nullable {α : Type} (absence : FieldAbsence) (name : String) (decode : Decoder α) :
    RecordForm (Option α) where
  fields := [⟨name, absence, checking (Decoder.option decode)⟩]
  build place sources :=
    match sources name with
    | some source => Decoder.option decode place source
    | none => .ok none

/-- A field that an object may leave out. -/
def optional {α : Type} (name : String) (decode : Decoder α) : RecordForm (Option α) :=
  nullable .null name decode

/-- A field that an object may leave out, and an array too that ends before it. -/
def lenient {α : Type} (name : String) (decode : Decoder α) : RecordForm (Option α) :=
  nullable .nullAnywhere name decode

instance : Applicative RecordForm where
  pure value := ⟨[], fun _ _ => .ok value⟩
  seq function argument :=
    ⟨function.fields ++ (argument ()).fields, fun place sources => do
      let apply ← function.build place sources
      return apply (← (argument ()).build place sources)⟩

/-- Goes through the members of an object and keeps the sources of the fields of the record. -/
def gather (fields : List FieldRule) (place : JsonPlace)
    (known : List (String × JsonSource)) :
    List (Except JsonFlaw String × JsonSource) → Except DecodeError (List (String × JsonSource))
  | [] => .ok known
  | (name, source) :: rest => do
    let name ← Decoder.ofFlaw name
    match fields.find? (fun rule => rule.name == name) with
    | none =>
      Decoder.ofFlaw source.skip
      gather fields place known rest
    | some rule =>
      if (known.lookup name).isSome then throw (.duplicateField name)
      rule.check place source
      gather fields place (known ++ [(name, source)]) rest

/-- The first field that is missing and has to be there. -/
def requireFields (known : List (String × JsonSource)) :
    List FieldRule → Except DecodeError Unit
  | [] => .ok ()
  | rule :: rest =>
    if rule.absence = .refused ∧ (known.lookup rule.name).isNone then
      .error (.missingField rule.name)
    else requireFields known rest

def elementCount (count : Nat) : String :=
  toString count ++ (if count = 1 then " element" else " elements")

/-- Goes through the items of an array, one for each field of the record. -/
def align (expected : String) (place : JsonPlace) (flaw : Option JsonFlaw) :
    (position : Nat) → List FieldRule → List JsonSource →
    Except DecodeError (List (String × JsonSource) × List JsonSource)
  | _, [], rest => .ok ([], rest)
  | position, rule :: rules, [] => do
    Decoder.ofFlaw (JsonSource.finish flaw)
    if rule.absence = .nullAnywhere then align expected place flaw (position + 1) rules []
    else throw (.wrongLength position expected)
  | position, rule :: rules, source :: rest => do
    rule.check place source
    let (known, unused) ← align expected place flaw (position + 1) rules rest
    return ((rule.name, source) :: known, unused)

/-- Nothing may follow the last field in an array. -/
def closeArray (place : JsonPlace) (count : Nat) (unused : List JsonSource)
    (flaw : Option JsonFlaw) : Except DecodeError Unit :=
  if unused.isEmpty then Decoder.ofFlaw (JsonSource.finish flaw)
  else if place.fromText then .error (.flaw .grammar)
  else .error (.wrongLength count "fewer elements in array")

/-- Decodes a record; its name is what messages call it. -/
def decode {α : Type} (name : String) (form : RecordForm α) : Decoder α := fun place source =>
  match source with
  | .object members flaw => do
    let inner ← place.enter
    let known ← gather form.fields inner [] members
    Decoder.ofFlaw (JsonSource.finish flaw)
    requireFields known form.fields
    form.build inner (fun field => known.lookup field)
  | .array items flaw => do
    let inner ← place.enter
    let expected := "struct " ++ name ++ " with " ++ elementCount form.fields.length
    let (known, unused) ← align expected inner flaw 0 form.fields items
    closeArray place items.length unused flaw
    form.build inner (fun field => known.lookup field)
  | other => Decoder.mismatch ("struct " ++ name) other

end RecordForm

end Stockroom
