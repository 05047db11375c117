import Stockroom.Database.Cells
import Stockroom.Wire.Scalar

/-!
# Rows as JSON

A row as an object of its columns, as statements bind them and as tables are
shown.  An empty cell is null.
-/

namespace Stockroom.Database

def int32ToJson (value : Int32) : Json :=
  .int value.toInt

def int32Decoder : Decoder Int32 := fun place source =>
  (Decoder.int32 place source).map Int32.ofInt

namespace InventoryCells

def columns (cells : InventoryCells) : List (String × Json) := [
  ("id", .ofOption Uuid.toJson cells.id),
  ("product_id", .ofOption .string cells.product),
  ("available_quantity", .ofOption int32ToJson cells.available),
  ("reserved_quantity", .ofOption int32ToJson cells.reserved),
  ("low_stock_threshold", .ofOption int32ToJson cells.lowStockThreshold),
  ("last_restock_date", .ofOption Instant.toJson cells.lastRestock),
  ("created_at", .ofOption Instant.toJson cells.createdAt),
  ("updated_at", .ofOption Instant.toJson cells.updatedAt)]

def toJson (cells : InventoryCells) : Json :=
  .ofMembers cells.columns

def decoder : Decoder InventoryCells :=
  RecordForm.decode "InventoryRow" (
    mk <$> RecordForm.optional "id" Decoder.uuid
      <*> RecordForm.optional "product_id" Decoder.string
      <*> RecordForm.optional "available_quantity" int32Decoder
      <*> RecordForm.optional "reserved_quantity" int32Decoder
      <*> RecordForm.optional "low_stock_threshold" int32Decoder
      <*> RecordForm.optional "last_restock_date" Decoder.instant
      <*> RecordForm.optional "created_at" Decoder.instant
      <*> RecordForm.optional "updated_at" Decoder.instant)

end InventoryCells

namespace InventoryRow

def columns (row : InventoryRow) : List (String × Json) :=
  (InventoryCells.ofRow row).columns

def toJson (row : InventoryRow) : Json :=
  .ofMembers row.columns

def decoder : Decoder InventoryRow :=
  RecordForm.decode "InventoryRow" (
    mk <$> RecordForm.field "id" Decoder.uuid
      <*> RecordForm.field "product_id" Decoder.string
      <*> RecordForm.field "available_quantity" int32Decoder
      <*> RecordForm.field "reserved_quantity" int32Decoder
      <*> RecordForm.field "low_stock_threshold" int32Decoder
      <*> RecordForm.optional "last_restock_date" Decoder.instant
      <*> RecordForm.field "created_at" Decoder.instant
      <*> RecordForm.field "updated_at" Decoder.instant)

end InventoryRow

namespace ReservationCells

def columns (cells : ReservationCells) : List (String × Json) := [
  ("id", .ofOption Uuid.toJson cells.id),
  ("order_id", .ofOption .string cells.orderId),
  ("status", .ofOption .string cells.status),
  ("expires_at", .ofOption Instant.toJson cells.expiresAt),
  ("created_at", .ofOption Instant.toJson cells.createdAt),
  ("updated_at", .ofOption Instant.toJson cells.updatedAt)]

def toJson (cells : ReservationCells) : Json :=
  .ofMembers cells.columns

def decoder : Decoder ReservationCells :=
  RecordForm.decode "ReservationRow" (
    mk <$> RecordForm.optional "id" Decoder.uuid
      <*> RecordForm.optional "order_id" Decoder.string
      <*> RecordForm.optional "status" Decoder.string
      <*> RecordForm.optional "expires_at" Decoder.instant
      <*> RecordForm.optional "created_at" Decoder.instant
      <*> RecordForm.optional "updated_at" Decoder.instant)

end ReservationCells

namespace ReservationRow

def columns (row : ReservationRow) : List (String × Json) :=
  (ReservationCells.ofRow row).columns

def toJson (row : ReservationRow) : Json :=
  .ofMembers row.columns

def decoder : Decoder ReservationRow :=
  RecordForm.decode "ReservationRow" (
    mk <$> RecordForm.field "id" Decoder.uuid
      <*> RecordForm.field "order_id" Decoder.string
      <*> RecordForm.field "status" Decoder.string
      <*> RecordForm.field "expires_at" Decoder.instant
      <*> RecordForm.field "created_at" Decoder.instant
      <*> RecordForm.field "updated_at" Decoder.instant)

end ReservationRow

namespace ItemCells

def columns (cells : ItemCells) : List (String × Json) := [
  ("reservation_id", .ofOption Uuid.toJson cells.reservation),
  ("position", .ofOption int32ToJson cells.position),
  ("product_id", .ofOption .string cells.product),
  ("quantity", .ofOption int32ToJson cells.quantity)]

def toJson (cells : ItemCells) : Json :=
  .ofMembers cells.columns

def decoder : Decoder ItemCells :=
  RecordForm.decode "ReservationItemRow" (
    mk <$> RecordForm.optional "reservation_id" Decoder.uuid
      <*> RecordForm.optional "position" int32Decoder
      <*> RecordForm.optional "product_id" Decoder.string
      <*> RecordForm.optional "quantity" int32Decoder)

end ItemCells

namespace ItemRow

def columns (row : ItemRow) : List (String × Json) :=
  (ItemCells.ofRow row).columns

def toJson (row : ItemRow) : Json :=
  .ofMembers row.columns

def decoder : Decoder ItemRow :=
  RecordForm.decode "ReservationItemRow" (
    mk <$> RecordForm.field "reservation_id" Decoder.uuid
      <*> RecordForm.field "position" int32Decoder
      <*> RecordForm.field "product_id" Decoder.string
      <*> RecordForm.field "quantity" int32Decoder)

end ItemRow

namespace ProcessedCells

def columns (cells : ProcessedCells) : List (String × Json) := [
  ("idempotency_key", .ofOption .string cells.key),
  ("command_id", .ofOption Uuid.toJson cells.commandId),
  ("result", cells.result.getD .null),
  ("processed_at", .ofOption Instant.toJson cells.processedAt)]

def toJson (cells : ProcessedCells) : Json :=
  .ofMembers cells.columns

def decoder : Decoder ProcessedCells :=
  RecordForm.decode "ProcessedCommandRow" (
    mk <$> RecordForm.optional "idempotency_key" Decoder.string
      <*> RecordForm.optional "command_id" Decoder.uuid
      <*> RecordForm.optional "result" Decoder.json
      <*> RecordForm.optional "processed_at" Decoder.instant)

end ProcessedCells

namespace ProcessedRow

def columns (row : ProcessedRow) : List (String × Json) :=
  (ProcessedCells.ofRow row).columns

end ProcessedRow

end Stockroom.Database
