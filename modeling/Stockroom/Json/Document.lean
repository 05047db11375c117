import Stockroom.Json.Decoder
import Stockroom.Json.Reader
import Stockroom.Json.Text

/-!
# JSON documents

Decoding a whole text or a whole value, and what becomes of a value that is
kept as its text.
-/

namespace Stockroom

namespace Decoder

/-- Reads a whole text, after which nothing but space may follow. -/
def ofWholeText {α : Type} (decode : Decoder α) (text : String) : Except DecodeError α := do
  let (source, flaw) := Json.Reader.read text
  let value ← decode .ofText source
  match flaw with
  | some flaw => throw (.flaw flaw)
  | none => return value

/-- Reads a JSON value. -/
def ofWholeValue {α : Type} (decode : Decoder α) (value : Json) : Except DecodeError α :=
  decode .ofValue (JsonSource.ofJson value)

end Decoder

namespace Json

/-- What is read back from the text of a value.  Reading a float rounds more than once, so a
float with many digits may come back as a neighbour. -/
def readBack (value : Json) : Json :=
  (Decoder.ofWholeText Decoder.json value.text).toOption.getD value

example : (number (.integer 3)).readBack.text = "3" := by
  decide +kernel

end Json

end Stockroom
