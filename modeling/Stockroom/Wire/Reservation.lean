import Stockroom.Store.Call
import Stockroom.Wire.Scalar

/-!
# The wire form of reservations
-/

namespace Stockroom

namespace ReservationLine

def toJson (line : ReservationLine) : Json :=
  .ofMembers [("product_id", line.product.toJson), ("quantity", line.quantity.toJson)]

def decoder : Decoder ReservationLine :=
  RecordForm.decode "ReservationItem" (
    mk <$> RecordForm.field "product_id" ProductId.decoder
      <*> RecordForm.field "quantity" Quantity.decoder)

end ReservationLine

namespace Reservation

def toJson (reservation : Reservation) : Json :=
  .ofMembers [
    ("id", reservation.id.toJson),
    ("order_id", .string reservation.orderId),
    ("items", .array (reservation.lines.map ReservationLine.toJson)),
    ("status", reservation.status.toJson),
    ("expires_at", reservation.expiresAt.toJson),
    ("created_at", reservation.createdAt.toJson),
    ("updated_at", reservation.updatedAt.toJson)]

def decoder : Decoder Reservation :=
  RecordForm.decode "Reservation" (
    mk <$> RecordForm.field "id" Decoder.uuid
      <*> RecordForm.field "order_id" Decoder.string
      <*> RecordForm.field "items" (Decoder.list ReservationLine.decoder)
      <*> RecordForm.field "status" Status.decoder
      <*> RecordForm.field "expires_at" Decoder.instant
      <*> RecordForm.field "created_at" Decoder.instant
      <*> RecordForm.field "updated_at" Decoder.instant)

end Reservation

def Outcome.toJson (outcome : Outcome) : Json :=
  .ofMembers [
    ("applied", .bool outcome.wasApplied),
    ("reservation", outcome.reservation.toJson)]

end Stockroom
