import Stockroom.Number.Binary64
import Stockroom.SortedMap

/-!
# JSON values

Numbers are whole when they are written so and fit 64 bits, and binary floats
otherwise.  The members of an object stand in ascending key order.
-/

namespace Stockroom

inductive JsonNumber where
  | integer (value : Int)
  | real (value : Binary64)
deriving DecidableEq, Repr

inductive Json where
  | null
  | bool (value : Bool)
  | number (value : JsonNumber)
  | string (value : String)
  | array (items : List Json)
  | object (members : List (String × Json))
deriving Repr

namespace Json

instance : Inhabited Json :=
  ⟨null⟩

/-- An object of given members; of two members of one name the later one counts. -/
def ofMembers (members : List (String × Json)) : Json :=
  object (members.foldl
    (fun sorted member => SortedMap.insertEntry member.1 member.2 sorted) [])

def int (value : Int) : Json :=
  number (.integer value)

def nat (value : Nat) : Json :=
  int value

/-- The member of that name, in an object that has one. -/
def member? (name : String) : Json → Option Json
  | object members => SortedMap.entryValue? name members
  | _ => none

def ofOption {α : Type} (encode : α → Json) : Option α → Json
  | none => null
  | some value => encode value

end Json

end Stockroom
