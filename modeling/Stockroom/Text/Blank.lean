/-!
# Blank text

A product id or an order id has to say something.  Text is blank when every
one of its characters has the Unicode property White_Space; reading a word
ignores such characters at both ends.
-/

namespace Stockroom.Text

/-- The characters with the Unicode property White_Space. -/
def isSpace (character : Char) : Bool :=
  let code := character.toNat
  (0x0009 ≤ code && code ≤ 0x000D) || code == 0x0020 || code == 0x0085 || code == 0x00A0 ||
    code == 0x1680 || (0x2000 ≤ code && code ≤ 0x200A) || code == 0x2028 || code == 0x2029 ||
    code == 0x202F || code == 0x205F || code == 0x3000

def isBlank (text : String) : Bool :=
  text.toList.all isSpace

/-- The text without the space at its start. -/
def trimStart (characters : List Char) : List Char :=
  characters.dropWhile isSpace

/-- The text without the space at both ends. -/
def trim (text : String) : String :=
  String.ofList (trimStart (trimStart text.toList).reverse).reverse

example : isBlank "" = true ∧ isBlank "\t\u3000 " = true ∧ isBlank "\u200b" = false := by
  decide +kernel

end Stockroom.Text
