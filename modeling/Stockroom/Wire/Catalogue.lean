import Stockroom.Database.RowJson
import Stockroom.Json.Document
import Stockroom.Wire.Command
import Stockroom.Wire.Reservation
import Stockroom.Wire.Stock

/-!
# The catalogue of wire forms

Every type that can be read off the wire, by its name there.  Reading a value
and writing it again gives its plain form.
-/

namespace Stockroom

namespace Wire

/-- A decoder that writes again what it has read. -/
def plain {α : Type} (decode : Decoder α) (encode : α → Json) : Decoder Json :=
  fun place source => (decode place source).map encode

def catalogue : List (String × Decoder Json) := [
  ("Quantity", plain Quantity.decoder Quantity.toJson),
  ("ProductId", plain ProductId.decoder ProductId.toJson),
  ("AdjustmentType", plain AdjustmentKind.decoder AdjustmentKind.toJson),
  ("StockAdjustment", plain Adjustment.decoder Adjustment.toJson),
  ("ReservationStatus", plain Status.decoder Status.toJson),
  ("ReservationItem", plain ReservationLine.decoder ReservationLine.toJson),
  ("Reservation", plain Reservation.decoder Reservation.toJson),
  ("InventoryRecord", plain StockRecord.decoder StockRecord.toJson),
  ("InventoryRow", plain Database.InventoryRow.decoder Database.InventoryRow.toJson),
  ("Page", plain Page.decoder Page.toJson),
  ("ErrorKind", plain FailureKind.decoder FailureKind.toJson),
  ("Command", plain Command.decoder Command.toJson),
  ("CommandType", plain CommandKind.decoder CommandKind.toJson),
  ("CommandReply", plain Reply.decoder Reply.toJson),
  ("CommandStatus", plain ReplyStatus.decoder ReplyStatus.toJson),
  ("ReserveItem", plain RequestedLine.decoder RequestedLine.toJson),
  ("ReserveStockData", plain ReservePayload.decoder ReservePayload.toJson),
  ("ReservationRef", plain ReservationPayload.decoder ReservationPayload.toJson),
  ("AdjustStockData", plain AdjustPayload.decoder AdjustPayload.toJson),
  ("StockCheckItem", plain CheckLine.decoder CheckLine.toJson),
  ("CheckStockData", plain CheckPayload.decoder CheckPayload.toJson),
  ("StockAvailability", plain Availability.decoder Availability.toJson)]

end Wire

end Stockroom
