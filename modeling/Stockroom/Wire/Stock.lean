import Stockroom.Availability
import Stockroom.Store.Page
import Stockroom.Wire.Scalar

/-!
# The wire form of stock
-/

namespace Stockroom

namespace StockRecord

def toJson (record : StockRecord) : Json :=
  .ofMembers [
    ("id", record.id.toJson),
    ("product_id", record.product.toJson),
    ("available_quantity", record.available.toJson),
    ("reserved_quantity", record.reserved.toJson),
    ("low_stock_threshold", record.lowStockThreshold.toJson),
    ("last_restock_date", .ofOption Instant.toJson record.lastRestock),
    ("created_at", record.createdAt.toJson),
    ("updated_at", record.updatedAt.toJson)]

def decoder : Decoder StockRecord :=
  RecordForm.decode "InventoryRecord" (
    mk <$> RecordForm.field "id" Decoder.uuid
      <*> RecordForm.field "product_id" ProductId.decoder
      <*> RecordForm.field "available_quantity" Quantity.decoder
      <*> RecordForm.field "reserved_quantity" Quantity.decoder
      <*> RecordForm.field "low_stock_threshold" Quantity.decoder
      <*> RecordForm.optional "last_restock_date" Decoder.instant
      <*> RecordForm.field "created_at" Decoder.instant
      <*> RecordForm.field "updated_at" Decoder.instant)

end StockRecord

namespace Page

def toJson (page : Page) : Json :=
  .ofMembers [
    ("items", .array (page.items.map StockRecord.toJson)),
    ("total", .nat page.total),
    ("page", .nat page.page),
    ("limit", .nat page.limit)]

def decoder : Decoder Page :=
  RecordForm.decode "Page" (
    mk <$> RecordForm.field "items" (Decoder.list StockRecord.decoder)
      <*> RecordForm.field "total" Decoder.word64
      <*> RecordForm.field "page" Decoder.word32
      <*> RecordForm.field "limit" Decoder.word32)

end Page

namespace Availability

def toJson (availability : Availability) : Json :=
  .ofMembers [
    ("productId", .string availability.product),
    ("isAvailable", .bool availability.isAvailable),
    ("availableQuantity", .nat availability.available),
    ("requestedQuantity", .nat availability.requested)]

def decoder : Decoder Availability :=
  RecordForm.decode "StockAvailability" (
    mk <$> RecordForm.field "productId" Decoder.string
      <*> RecordForm.field "isAvailable" Decoder.bool
      <*> RecordForm.field "availableQuantity" Decoder.word32
      <*> RecordForm.field "requestedQuantity" Decoder.word32)

end Availability

end Stockroom
