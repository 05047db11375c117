import Stockroom.Json.Source
import Stockroom.Text.Quoted

/-!
# Decoding errors

Why a JSON source is not of the form that a decoder expects.
-/

namespace Stockroom

/-- What a decoder met in place of what it expected. -/
inductive JsonFound where
  | null
  | bool (value : Bool)
  | number (value : JsonNumber)
  | string (text : String)
  | sequence
  | map
deriving DecidableEq, Repr

def JsonFound.text : JsonFound → String
  | null => "null"
  | bool true => "boolean `true`"
  | bool false => "boolean `false`"
  | number (.integer value) => "integer `" ++ toString value ++ "`"
  | number (.real value) => "floating point `" ++ value.text ++ "`"
  | string text => "string " ++ Text.quoted text
  | sequence => "sequence"
  | map => "map"

inductive DecodeError where
  | flaw (flaw : JsonFlaw)
  | wrongType (found : JsonFound) (expected : String)
  | wrongValue (found : JsonFound) (expected : String)
  | wrongLength (found : Nat) (expected : String)
  | missingField (name : String)
  | duplicateField (name : String)
  | unknownVariant (name : String) (known : List String)
  | refused (reason : String)
deriving DecidableEq, Repr

namespace DecodeError

/-- Names in backticks, joined by commas. -/
def listing : List String → String
  | [] => ""
  | [name] => "`" ++ name ++ "`"
  | name :: rest => "`" ++ name ++ "`, " ++ listing rest

/-- The choice that a list of variants leaves. -/
def choice : List String → String
  | [name] => "`" ++ name ++ "`"
  | [first, second] => "`" ++ first ++ "` or `" ++ second ++ "`"
  | names => "one of " ++ listing names

/-- What a refused value is told; a broken text has no message of its own. -/
def message : DecodeError → String
  | flaw _ => ""
  | wrongType found expected => "invalid type: " ++ found.text ++ ", expected " ++ expected
  | wrongValue found expected => "invalid value: " ++ found.text ++ ", expected " ++ expected
  | wrongLength found expected =>
    "invalid length " ++ toString found ++ ", expected " ++ expected
  | missingField name => "missing field `" ++ name ++ "`"
  | duplicateField name => "duplicate field `" ++ name ++ "`"
  | unknownVariant name known =>
    "unknown variant `" ++ name ++ "`, expected " ++ choice known
  | refused reason => reason

end DecodeError

end Stockroom
