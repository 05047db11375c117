import Stockroom.Command.Reply
import Stockroom.Store.Call
import Stockroom.Wire.Scalar

/-!
# The wire form of commands and replies
-/

namespace Stockroom

namespace CommandKind

def toJson (kind : CommandKind) : Json :=
  .string kind.word

def decoder : Decoder CommandKind :=
  Decoder.variant (all.map (fun kind => (kind.word, kind)))

end CommandKind

namespace Command

def toJson (command : Command) : Json :=
  .ofMembers [
    ("id", command.id.toJson),
    ("saga_id", command.sagaId.toJson),
    ("command_type", command.kind.toJson),
    ("payload", command.payload),
    ("idempotency_key", .string command.idempotencyKey),
    ("created_at", command.createdAt.toJson)]

def decoder : Decoder Command :=
  RecordForm.decode "Command" (
    mk <$> RecordForm.field "id" Decoder.uuid
      <*> RecordForm.field "saga_id" Decoder.uuid
      <*> RecordForm.field "command_type" CommandKind.decoder
      <*> RecordForm.field "payload" Decoder.json
      <*> RecordForm.field "idempotency_key" Decoder.string
      <*> RecordForm.field "created_at" Decoder.instant)

end Command

namespace ReplyStatus

def toJson (status : ReplyStatus) : Json :=
  .string status.word

def decoder : Decoder ReplyStatus :=
  Decoder.variant (all.map (fun status => (status.word, status)))

end ReplyStatus

namespace Reply

def toJson (reply : Reply) : Json :=
  .ofMembers [
    ("id", reply.id.toJson),
    ("command_id", reply.commandId.toJson),
    ("saga_id", reply.sagaId.toJson),
    ("status", reply.status.toJson),
    ("result", reply.result.getD .null),
    ("error", .ofOption .string reply.error),
    ("error_kind", .ofOption .string reply.errorKind),
    ("created_at", reply.createdAt.toJson)]

def decoder : Decoder Reply :=
  RecordForm.decode "CommandReply" (
    mk <$> RecordForm.field "id" Decoder.uuid
      <*> RecordForm.field "command_id" Decoder.uuid
      <*> RecordForm.field "saga_id" Decoder.uuid
      <*> RecordForm.field "status" ReplyStatus.decoder
      <*> RecordForm.optional "result" Decoder.json
      <*> RecordForm.optional "error" Decoder.string
      <*> RecordForm.lenient "error_kind" Decoder.string
      <*> RecordForm.field "created_at" Decoder.instant)

end Reply

def ProcessedCommand.toJson (command : ProcessedCommand) : Json :=
  .ofMembers [
    ("key", .string command.key),
    ("command_id", command.commandId.toJson),
    ("result", command.result.getD .null),
    ("processed_at", command.processedAt.toJson)]

namespace RequestedLine

def toJson (line : RequestedLine) : Json :=
  .ofMembers [("product_id", .string line.product), ("quantity", .int line.quantity)]

def decoder : Decoder RequestedLine :=
  RecordForm.decode "ReserveItem" (
    mk <$> RecordForm.field "product_id" Decoder.string
      <*> RecordForm.field "quantity" Decoder.int64)

end RequestedLine

namespace CheckLine

def toJson (line : CheckLine) : Json :=
  .ofMembers [("product_id", .string line.product), ("quantity", .ofOption .int line.quantity)]

def decoder : Decoder CheckLine :=
  RecordForm.decode "StockCheckItem" (
    mk <$> RecordForm.field "product_id" Decoder.string
      <*> RecordForm.lenient "quantity" Decoder.int64)

end CheckLine

namespace ReservePayload

def toJson (payload : ReservePayload) : Json :=
  .ofMembers [
    ("order_id", .string payload.orderId),
    ("items", .array (payload.lines.map RequestedLine.toJson))]

def decoder : Decoder ReservePayload :=
  RecordForm.decode "ReserveStockData" (
    mk <$> RecordForm.field "order_id" Decoder.string
      <*> RecordForm.field "items" (Decoder.list RequestedLine.decoder))

end ReservePayload

namespace ReservationPayload

def toJson (payload : ReservationPayload) : Json :=
  .ofMembers [("reservation_id", payload.reservation.toJson)]

def decoder : Decoder ReservationPayload :=
  RecordForm.decode "ReservationRef" (mk <$> RecordForm.field "reservation_id" Decoder.uuid)

end ReservationPayload

namespace AdjustPayload

def toJson (payload : AdjustPayload) : Json :=
  .ofMembers [
    ("product_id", .string payload.product),
    ("adjustment_type", .string payload.kind),
    ("quantity", .int payload.quantity)]

def decoder : Decoder AdjustPayload :=
  RecordForm.decode "AdjustStockData" (
    mk <$> RecordForm.field "product_id" Decoder.string
      <*> RecordForm.field "adjustment_type" Decoder.string
      <*> RecordForm.field "quantity" Decoder.int64)

end AdjustPayload

namespace CheckPayload

def toJson (payload : CheckPayload) : Json :=
  .ofMembers [("items", .array (payload.lines.map CheckLine.toJson))]

def decoder : Decoder CheckPayload :=
  RecordForm.decode "CheckStockData" (
    mk <$> RecordForm.field "items" (Decoder.list CheckLine.decoder))

end CheckPayload

end Stockroom
