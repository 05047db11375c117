import Stockroom.Quantity.Arithmetic
import Stockroom.Text.Blank

/-!
# Stock adjustments

Stock is corrected outside of the reservation flow by adding units, taking
units away, or setting the number of available units.
-/

namespace Stockroom

inductive AdjustmentKind where
  | add
  | subtract
  | set
deriving DecidableEq, Repr

namespace AdjustmentKind

def all : List AdjustmentKind := [.add, .subtract, .set]

def word : AdjustmentKind → String
  | .add => "ADD"
  | .subtract => "SUBTRACT"
  | .set => "SET"

/-- The text with its ASCII letters in upper case. -/
def upperCase (text : String) : String :=
  String.ofList (text.toList.map Char.toUpper)

/-- Reads a kind from its word in any case, with space around it. -/
def ofText (text : String) : Except Violation AdjustmentKind :=
  match all.find? (fun kind => kind.word == upperCase (Text.trim text)) with
  | some kind => .ok kind
  | none => .error (.unknownAdjustment text)

end AdjustmentKind

structure Adjustment where
  kind : AdjustmentKind
  quantity : Quantity
deriving DecidableEq, Repr

namespace Adjustment

/-- Adding and subtracting need a positive number of units; stock may be set to zero. -/
def ofInt (kind : AdjustmentKind) (units : Int) : Except Violation Adjustment := do
  let quantity ← match kind with
    | .set => Quantity.ofInt units
    | .add | .subtract => Quantity.positive units
  return ⟨kind, quantity⟩

def ofText (kind : String) (units : Int) : Except Violation Adjustment := do
  ofInt (← AdjustmentKind.ofText kind) units

end Adjustment

end Stockroom
