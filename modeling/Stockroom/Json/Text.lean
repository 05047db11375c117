import Stockroom.Json.Value

/-!
# JSON texts

Writing without any space.  A quote, a backslash and the control characters
are escaped, everything else stands for itself.
-/

namespace Stockroom.Json

/-- The escape of a character that may not stand for itself. -/
def escape? (character : Char) : Option (List Char) :=
  match character with
  | '"' => some ['\\', '"']
  | '\\' => some ['\\', '\\']
  | '\x08' => some ['\\', 'b']
  | '\x0c' => some ['\\', 'f']
  | '\n' => some ['\\', 'n']
  | '\r' => some ['\\', 'r']
  | '\t' => some ['\\', 't']
  | _ =>
    if character.toNat < 0x20 then
      let digit (value : Nat) := Char.ofNat (if value < 10 then 48 + value else 87 + value)
      some ['\\', 'u', '0', '0', digit (character.toNat / 16), digit (character.toNat % 16)]
    else none

def writeString (text : String) : List Char :=
  '"' :: text.toList.flatMap (fun character => (escape? character).getD [character]) ++ ['"']

def writeNumber : JsonNumber → List Char
  | .integer value => (toString value).toList
  | .real value => value.text.toList

mutual

def write : Json → List Char
  | null => ['n', 'u', 'l', 'l']
  | bool true => ['t', 'r', 'u', 'e']
  | bool false => ['f', 'a', 'l', 's', 'e']
  | number value => writeNumber value
  | string text => writeString text
  | array [] => ['[', ']']
  | array (first :: rest) => '[' :: write first ++ writeItems rest
  | object [] => ['\x7b', '\x7d']
  | object (first :: rest) =>
    '\x7b' :: writeString first.1 ++ ':' :: write first.2 ++ writeMembers rest

/-- The items after the first one, and the end of the array. -/
def writeItems : List Json → List Char
  | [] => [']']
  | item :: rest => ',' :: write item ++ writeItems rest

/-- The members after the first one, and the end of the object. -/
def writeMembers : List (String × Json) → List Char
  | [] => ['\x7d']
  | (name, value) :: rest => ',' :: writeString name ++ ':' :: write value ++ writeMembers rest

end

def text (value : Json) : String :=
  String.ofList (write value)

end Stockroom.Json
