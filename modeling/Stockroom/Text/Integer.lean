/-!
# Decimal integers

Whole numbers as people write them on a command line: a sign, then one or more
digits, zeros in front being allowed.
-/

namespace Stockroom.Text

/-- The number that digits stand for; there has to be at least one. -/
def naturalOf? (digits : List Char) : Option Nat :=
  if digits.isEmpty ∨ !digits.all Char.isDigit then none
  else some (digits.foldl (fun number digit => number * 10 + (digit.toNat - 48)) 0)

/-- Reads digits with or without a plus sign. -/
def unsigned? (text : String) : Option Nat :=
  match text.toList with
  | '+' :: digits => naturalOf? digits
  | digits => naturalOf? digits

/-- Reads digits with or without a sign. -/
def signed? (text : String) : Option Int :=
  match text.toList with
  | '-' :: digits => (naturalOf? digits).map (fun number => -(number : Int))
  | '+' :: digits => (naturalOf? digits).map Int.ofNat
  | digits => (naturalOf? digits).map Int.ofNat

end Stockroom.Text
