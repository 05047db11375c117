import Stockroom.Adjustment
import Stockroom.Json.RecordForm
import Stockroom.ProductId
import Stockroom.StockError
import Stockroom.Time.Rfc3339

/-!
# The wire form of single values

Numbers, texts and words.  A decoded quantity or product id obeys the rules of
its type, so nothing behind the wire has to check them again.
-/

namespace Stockroom

def Uuid.toJson (id : Uuid) : Json :=
  .string id.text

def Instant.toJson (instant : Instant) : Json :=
  .string (Rfc3339.text instant)

namespace Quantity

def toJson (quantity : Quantity) : Json :=
  .nat quantity.value

def decoder : Decoder Quantity :=
  Decoder.refine Decoder.int64 (fun value => (ofInt value).mapError Violation.message)

end Quantity

namespace ProductId

def toJson (id : ProductId) : Json :=
  .string id.text

def decoder : Decoder ProductId :=
  Decoder.refine Decoder.string (fun text => (ofText text).mapError Violation.message)

end ProductId

namespace Status

def toJson (status : Status) : Json :=
  .string status.word

def decoder : Decoder Status :=
  Decoder.variant (all.map (fun status => (status.word, status)))

end Status

namespace FailureKind

def toJson (kind : FailureKind) : Json :=
  .string kind.word

def decoder : Decoder FailureKind :=
  Decoder.variant (all.map (fun kind => (kind.word, kind)))

end FailureKind

namespace AdjustmentKind

def toJson (kind : AdjustmentKind) : Json :=
  .string kind.word

def decoder : Decoder AdjustmentKind :=
  Decoder.variant (all.map (fun kind => (kind.word, kind)))

end AdjustmentKind

namespace Adjustment

def toJson (adjustment : Adjustment) : Json :=
  .ofMembers [
    ("adjustment_type", adjustment.kind.toJson),
    ("quantity", adjustment.quantity.toJson)]

def decoder : Decoder Adjustment :=
  RecordForm.decode "StockAdjustment" (
    mk <$> RecordForm.field "adjustment_type" AdjustmentKind.decoder
      <*> RecordForm.field "quantity" Quantity.decoder)

end Adjustment

end Stockroom
