import Stockroom.Json.Text

/-!
# Changing JSON values

Replacing members of an object, and listing or replacing texts wherever they
stand.
-/

namespace Stockroom.Json

/-- The object with some members set; other values stay as they are. -/
def withMembers (value : Json) (members : List (String × Json)) : Json :=
  match value with
  | .object old => .ofMembers (old ++ members)
  | other => other

/-- The members of an object; no other value has any. -/
def members : Json → List (String × Json)
  | .object members => members
  | _ => []

/-- Whether an object has a member of that name. -/
def hasMember (value : Json) (name : String) : Bool :=
  (value.member? name).isSome

/-- The member of that name, or null. -/
def memberOrNull (value : Json) (name : String) : Json :=
  (value.member? name).getD .null

/-- Whether two values are written alike. -/
def isWrittenAs (left right : Json) : Bool :=
  left.text == right.text

mutual

/-- Every text in a value, from the first to the last; names of members are none of them. -/
def strings : Json → List String
  | .string text => [text]
  | .array items => itemStrings items
  | .object members => memberStrings members
  | _ => []

def itemStrings : List Json → List String
  | [] => []
  | item :: rest => strings item ++ itemStrings rest

def memberStrings : List (String × Json) → List String
  | [] => []
  | (_, value) :: rest => strings value ++ memberStrings rest

end

mutual

/-- Replaces every text in a value, but spares members of some names. -/
def mapStrings (replace : String → String) (spares : String → Bool) : Json → Json
  | .string text => .string (replace text)
  | .array items => .array (mapItems replace spares items)
  | .object members => .object (mapMembers replace spares members)
  | other => other

def mapItems (replace : String → String) (spares : String → Bool) : List Json → List Json
  | [] => []
  | item :: rest => mapStrings replace spares item :: mapItems replace spares rest

def mapMembers (replace : String → String) (spares : String → Bool) :
    List (String × Json) → List (String × Json)
  | [] => []
  | (name, value) :: rest =>
    (name, if spares name then value else mapStrings replace spares value) ::
      mapMembers replace spares rest

end

end Stockroom.Json
