import Stockroom.Json.Value

/-!
# JSON sources

What a reader meets when it goes through a JSON text from its start: the
values in the order of the text, up to the place where the text stops being
JSON.  A reader that refuses a value before that place never learns of it, and
one that skips a value is less particular about what is in it.
-/

namespace Stockroom

/-- Why a text is no JSON: it breaks the grammar, or it ends too early. -/
inductive JsonFlaw where
  | grammar
  | ending
deriving DecidableEq, Repr

/-- A value as it is met in a text.  A number may be too large for a float, and a string may
hold escapes that stand for no character; both matter only to a reader that wants the value.
The flaw of an array or object is the one met after its last item.  Where the text ends before
a value begins, the value is missing, and where it ends within a number, the number is
unfinished; any other value that begins and is no JSON is broken. -/
inductive JsonSource where
  | null
  | bool (value : Bool)
  | number (value : Option JsonNumber)
  | string (value : Except JsonFlaw String)
  | array (items : List JsonSource) (flaw : Option JsonFlaw)
  | object (members : List (Except JsonFlaw String × JsonSource)) (flaw : Option JsonFlaw)
  | missing
  | unfinished
  | broken (flaw : JsonFlaw)

namespace JsonSource

instance : Inhabited JsonSource :=
  ⟨null⟩

mutual

/-- A value as a source without flaws. -/
def ofJson : Json → JsonSource
  | .null => null
  | .bool value => bool value
  | .number value => number (some value)
  | .string value => string (.ok value)
  | .array items => array (ofItems items) none
  | .object members => object (ofMembers members) none

def ofItems : List Json → List JsonSource
  | [] => []
  | item :: rest => ofJson item :: ofItems rest

def ofMembers : List (String × Json) → List (Except JsonFlaw String × JsonSource)
  | [] => []
  | (name, value) :: rest => (.ok name, ofJson value) :: ofMembers rest

end

def finish : Option JsonFlaw → Except JsonFlaw Unit
  | none => .ok ()
  | some flaw => .error flaw

mutual

/-- Skips a value, minding only where it ends.  To one that skips it, an unfinished number is
no number at all. -/
def skip : JsonSource → Except JsonFlaw Unit
  | null | bool _ | number _ | string _ => .ok ()
  | array items flaw => do
    skipItems items
    finish flaw
  | object members flaw => do
    skipMembers members
    finish flaw
  | missing => .error .ending
  | unfinished => .error .grammar
  | broken flaw => .error flaw

def skipItems : List JsonSource → Except JsonFlaw Unit
  | [] => .ok ()
  | item :: rest => do
    skip item
    skipItems rest

def skipMembers : List (Except JsonFlaw String × JsonSource) → Except JsonFlaw Unit
  | [] => .ok ()
  | (_, value) :: rest => do
    skip value
    skipMembers rest

end

end JsonSource

end Stockroom
