import Stockroom.Text.Printable

/-!
# Quoted text

Text in quotation marks as messages show it.  A quotation mark, a backslash
and every character that is not printable are written as escapes, so the
quoted text can be told from what stands around it.
-/

namespace Stockroom.Text

/-- The hexadecimal digits of a number, without zeros in front. -/
def hexDigits (number : Nat) : List Char :=
  Nat.toDigits 16 number

def quoteCharacter (character : Char) : List Char :=
  match character with
  | '\x00' => ['\\', '0']
  | '\t' => ['\\', 't']
  | '\n' => ['\\', 'n']
  | '\r' => ['\\', 'r']
  | '"' => ['\\', '"']
  | '\\' => ['\\', '\\']
  | _ =>
    if isPrintable character then [character]
    else '\\' :: 'u' :: '\x7b' :: hexDigits character.toNat ++ ['\x7d']

def quoted (text : String) : String :=
  String.ofList ('"' :: text.toList.flatMap quoteCharacter ++ ['"'])

example : quoted "a\"\u0301" = "\"a\\\"\\u\x7b301\x7d\"" := by
  decide +kernel

end Stockroom.Text
