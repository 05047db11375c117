import Stockroom.Proofs.Json.Ordering
import Stockroom.Proofs.Wire.Reply

/-!
# Records on the wire

Each record is recognized in its form, whichever order its members are in, and
a text can hold that form.  Where the form holds numbers that have to fit their
columns, or values of any kind, what is read from anything else is no record.
-/

namespace Stockroom

open Decoder (Reads Recognizes)
open JsonPlace (Carries)

/-! ## Single values -/

namespace Decoder.Reads

theorem integer {expected : String} {least greatest value : Int} (hleast : least ≤ value)
    (hgreatest : value ≤ greatest) :
    (integer expected least greatest).Reads (.int value) value := by
  intro place _
  exact if_pos ⟨hleast, hgreatest⟩

theorem natural {expected : String} {greatest : Int} {value : Nat}
    (hgreatest : (value : Int) ≤ greatest) :
    (natural expected greatest).Reads (.nat value) value := by
  intro place hfits
  have hread : (Decoder.integer expected 0 greatest).Reads (.int value) value :=
    integer (Int.natCast_nonneg value) hgreatest
  change (Decoder.integer expected 0 greatest place (.ofJson (.int value))).map Int.toNat = _
  rw [hread place hfits]
  rfl

theorem bool (value : Bool) : bool.Reads (.bool value) value :=
  fun _ _ => rfl

end Decoder.Reads

theorem Quantity.reads_toJson (quantity : Quantity) : decoder.Reads quantity.toJson quantity := by
  have hbound := quantity.value_le
  apply Reads.refine (.integer (by omega) (by omega))
  rw [ofInt, if_neg (by omega), dif_pos (by simpa using hbound)]
  rfl

theorem Quantity.carries_toJson (quantity : Quantity) {place : JsonPlace} :
    place.Carries quantity.toJson := by
  have hbound := quantity.value_le
  exact .integer (by omega) (by omega)

theorem ProductId.reads_toJson (id : ProductId) : decoder.Reads id.toJson id := by
  apply Reads.refine (.string id.text)
  rw [ofText_text, mapError_ok]

theorem Status.reads_toJson (status : Status) : decoder.Reads status.toJson status := by
  apply Reads.variant
  cases status <;> decide

theorem AdjustmentKind.reads_toJson (kind : AdjustmentKind) : decoder.Reads kind.toJson kind := by
  apply Reads.variant
  cases kind <;> decide

theorem CommandKind.reads_toJson (kind : CommandKind) : decoder.Reads kind.toJson kind := by
  apply Reads.variant
  cases kind <;> decide

/-- An integer of 64 bits with a sign. -/
def IsInt64 (value : Int) : Prop :=
  -9223372036854775808 ≤ value ∧ value ≤ 9223372036854775807

theorem IsInt64.carries {value : Int} (hfits : IsInt64 value) {place : JsonPlace} :
    place.Carries (.int value) :=
  .integer hfits.1 (by have := hfits.2; omega)

theorem IsInt64.reads {value : Int} (hfits : IsInt64 value) :
    Decoder.int64.Reads (.int value) value :=
  .integer hfits.1 hfits.2

theorem yields_int64 : Decoder.int64.Yields IsInt64 :=
  .integer "i64" (-9223372036854775808) 9223372036854775807

/-! ## Stock -/

namespace StockRecord

theorem recognizes_toJson (record : StockRecord) : decoder.Recognizes record.toJson record := by
  have hmember (name : String) : record.toJson.member? name = _ :=
    Json.member?_ofMembers (by simp) name
  have hrestock : (Decoder.option Decoder.instant).Recognizes
      (.ofOption Instant.toJson record.lastRestock) record.lastRestock :=
    .option (fun moment _ => (Reads.instant moment).recognizes rfl) fun _ => Json.noConfusion
  apply RecordForm.Recognizes.decode
  · exact List.Subset.refl _
  · exact RecordForm.Recognizes.map mk (.field (hmember "id") ((Reads.uuid _).recognizes rfl))
      |>.seq (.field (hmember "product_id") (record.product.reads_toJson.recognizes rfl))
      |>.seq (.field (hmember "available_quantity") (record.available.reads_toJson.recognizes rfl))
      |>.seq (.field (hmember "reserved_quantity") (record.reserved.reads_toJson.recognizes rfl))
      |>.seq (.field (hmember "low_stock_threshold")
        (record.lowStockThreshold.reads_toJson.recognizes rfl))
      |>.seq (.nullable (hmember "last_restock_date") hrestock)
      |>.seq (.field (hmember "created_at") ((Reads.instant _).recognizes rfl))
      |>.seq (.field (hmember "updated_at") ((Reads.instant _).recognizes rfl))

theorem carries_toJson (record : StockRecord) : JsonPlace.ofText.Carries record.toJson := by
  apply Carries.ofMembers rfl
  simp only [List.forall_mem_cons]
  exact ⟨.string _, .string _, record.available.carries_toJson, record.reserved.carries_toJson,
    record.lowStockThreshold.carries_toJson, .ofOption fun _ _ => .string _, .string _, .string _,
    List.forall_mem_nil _⟩

end StockRecord

namespace Adjustment

theorem recognizes_toJson (adjustment : Adjustment) :
    decoder.Recognizes adjustment.toJson adjustment := by
  have hmember (name : String) : adjustment.toJson.member? name = _ :=
    Json.member?_ofMembers (by simp) name
  apply RecordForm.Recognizes.decode
  · exact List.Subset.refl _
  · exact RecordForm.Recognizes.map mk
        (.field (hmember "adjustment_type") (adjustment.kind.reads_toJson.recognizes rfl))
      |>.seq (.field (hmember "quantity") (adjustment.quantity.reads_toJson.recognizes rfl))

theorem carries_toJson (adjustment : Adjustment) : JsonPlace.ofText.Carries adjustment.toJson := by
  apply Carries.ofMembers rfl
  simp only [List.forall_mem_cons]
  exact ⟨.string _, adjustment.quantity.carries_toJson, List.forall_mem_nil _⟩

end Adjustment

namespace Availability

/-- Both numbers of units fit 32 bits. -/
def IsWire (availability : Availability) : Prop :=
  availability.available ≤ 4294967295 ∧ availability.requested ≤ 4294967295

theorem recognizes_toJson {availability : Availability} (hwire : availability.IsWire) :
    decoder.Recognizes availability.toJson availability := by
  have hmember (name : String) : availability.toJson.member? name = _ :=
    Json.member?_ofMembers (by simp) name
  have havailable : Decoder.word32.Reads (.nat availability.available) availability.available :=
    .natural (by have := hwire.1; omega)
  have hrequested : Decoder.word32.Reads (.nat availability.requested) availability.requested :=
    .natural (by have := hwire.2; omega)
  apply RecordForm.Recognizes.decode
  · exact List.Subset.refl _
  · exact RecordForm.Recognizes.map mk
        (.field (hmember "productId") ((Reads.string _).recognizes rfl))
      |>.seq (.field (hmember "isAvailable") ((Reads.bool _).recognizes rfl))
      |>.seq (.field (hmember "availableQuantity") (havailable.recognizes rfl))
      |>.seq (.field (hmember "requestedQuantity") (hrequested.recognizes rfl))

theorem carries_toJson {availability : Availability} (hwire : availability.IsWire) :
    JsonPlace.ofText.Carries availability.toJson := by
  have havailable := hwire.1
  have hrequested := hwire.2
  apply Carries.ofMembers rfl
  simp only [List.forall_mem_cons]
  exact ⟨.string _, .bool _, .integer (by omega) (by omega), .integer (by omega) (by omega),
    List.forall_mem_nil _⟩

theorem yields_isWire : decoder.Yields IsWire := by
  have hnumber (name : String) : (RecordForm.field name Decoder.word32).Yields fun number =>
      (number : Int) ≤ 4294967295 := .field name (.natural _ _)
  apply RecordForm.Yields.decode
  apply RecordForm.Yields.seq (hnumber "requestedQuantity")
  apply RecordForm.Yields.seq (hnumber "availableQuantity")
  apply RecordForm.Yields.seq (.anything (RecordForm.field "isAvailable" Decoder.bool))
  apply RecordForm.Yields.map (.anything (RecordForm.field "productId" Decoder.string))
  intro _ _ _ _ available havailable requested hrequested
  exact ⟨Int.ofNat_le.1 havailable, Int.ofNat_le.1 hrequested⟩

end Availability

/-! ## Reservations -/

theorem ReservationLine.recognizes_toJson (line : ReservationLine) :
    decoder.Recognizes line.toJson line := by
  have hmember (name : String) : line.toJson.member? name = _ :=
    Json.member?_ofMembers (by simp) name
  apply RecordForm.Recognizes.decode
  · exact List.Subset.refl _
  · exact RecordForm.Recognizes.map mk
        (.field (hmember "product_id") (line.product.reads_toJson.recognizes rfl))
      |>.seq (.field (hmember "quantity") (line.quantity.reads_toJson.recognizes rfl))

theorem ReservationLine.carries_toJson (line : ReservationLine) {place inner : JsonPlace}
    (henter : place.enter = .ok inner) : place.Carries line.toJson := by
  apply Carries.ofMembers henter
  simp only [List.forall_mem_cons]
  exact ⟨.string _, line.quantity.carries_toJson, List.forall_mem_nil _⟩

namespace Reservation

theorem recognizes_toJson (reservation : Reservation) :
    decoder.Recognizes reservation.toJson reservation := by
  have hmember (name : String) : reservation.toJson.member? name = _ :=
    Json.member?_ofMembers (by simp) name
  have hlines : (Decoder.list ReservationLine.decoder).Recognizes
      (.array (reservation.lines.map ReservationLine.toJson)) reservation.lines :=
    .list fun line _ => line.recognizes_toJson
  apply RecordForm.Recognizes.decode
  · exact List.Subset.refl _
  · exact RecordForm.Recognizes.map mk (.field (hmember "id") ((Reads.uuid _).recognizes rfl))
      |>.seq (.field (hmember "order_id") ((Reads.string _).recognizes rfl))
      |>.seq (.field (hmember "items") hlines)
      |>.seq (.field (hmember "status") (reservation.status.reads_toJson.recognizes rfl))
      |>.seq (.field (hmember "expires_at") ((Reads.instant _).recognizes rfl))
      |>.seq (.field (hmember "created_at") ((Reads.instant _).recognizes rfl))
      |>.seq (.field (hmember "updated_at") ((Reads.instant _).recognizes rfl))

theorem carries_toJson (reservation : Reservation) :
    JsonPlace.ofText.Carries reservation.toJson := by
  have hlines : JsonPlace.Carries ⟨true, 1⟩
      (.array (reservation.lines.map ReservationLine.toJson)) :=
    .map rfl fun line _ => line.carries_toJson rfl
  apply Carries.ofMembers rfl
  simp only [List.forall_mem_cons]
  exact ⟨.string _, .string _, hlines, .string _, .string _, .string _, .string _,
    List.forall_mem_nil _⟩

end Reservation

/-! ## Commands and replies -/

namespace Command

theorem recognizes_toJson {command : Command} (hcanonical : command.payload.IsCanonical) :
    decoder.Recognizes command.toJson command := by
  have hmember (name : String) : command.toJson.member? name = _ :=
    Json.member?_ofMembers (by simp) name
  apply RecordForm.Recognizes.decode
  · exact List.Subset.refl _
  · exact RecordForm.Recognizes.map mk (.field (hmember "id") ((Reads.uuid _).recognizes rfl))
      |>.seq (.field (hmember "saga_id") ((Reads.uuid _).recognizes rfl))
      |>.seq (.field (hmember "command_type") (command.kind.reads_toJson.recognizes rfl))
      |>.seq (.field (hmember "payload") (.json hcanonical))
      |>.seq (.field (hmember "idempotency_key") ((Reads.string _).recognizes rfl))
      |>.seq (.field (hmember "created_at") ((Reads.instant _).recognizes rfl))

theorem carries_toJson {command : Command}
    (hpayload : JsonPlace.Carries ⟨true, 1⟩ command.payload) :
    JsonPlace.ofText.Carries command.toJson := by
  apply Carries.ofMembers rfl
  simp only [List.forall_mem_cons]
  exact ⟨.string _, .string _, .string _, hpayload, .string _, .string _,
    List.forall_mem_nil _⟩

theorem yields_isCanonical : decoder.Yields fun command => command.payload.IsCanonical := by
  apply RecordForm.Yields.decode
  apply RecordForm.Yields.seq (.anything (RecordForm.field "created_at" Decoder.instant))
  apply RecordForm.Yields.seq (.anything (RecordForm.field "idempotency_key" Decoder.string))
  apply RecordForm.Yields.seq (.field "payload" .json)
  apply RecordForm.Yields.seq (.anything (RecordForm.field "command_type" CommandKind.decoder))
  apply RecordForm.Yields.seq (.anything (RecordForm.field "saga_id" Decoder.uuid))
  apply RecordForm.Yields.map (.anything (RecordForm.field "id" Decoder.uuid))
  intro _ _ _ _ _ _ _ hcanonical _ _ _ _
  exact hcanonical

end Command

namespace Reply

theorem carries_toJson {reply : Reply}
    (hresult : ∀ result ∈ reply.result, JsonPlace.Carries ⟨true, 1⟩ result) :
    JsonPlace.ofText.Carries reply.toJson := by
  have hwritten : JsonPlace.Carries ⟨true, 1⟩ (reply.result.getD .null) := by
    cases hreply : reply.result with
    | none => exact .null
    | some result => exact hresult result hreply
  apply Carries.ofMembers rfl
  simp only [List.forall_mem_cons]
  exact ⟨.string _, .string _, .string _, .string _, hwritten, .ofOption fun _ _ => .string _,
    .ofOption fun _ _ => .string _, .string _, List.forall_mem_nil _⟩

end Reply

/-! ## Payloads -/

namespace RequestedLine

theorem recognizes_toJson {line : RequestedLine} (hwire : IsInt64 line.quantity) :
    decoder.Recognizes line.toJson line := by
  have hmember (name : String) : line.toJson.member? name = _ :=
    Json.member?_ofMembers (by simp) name
  apply RecordForm.Recognizes.decode
  · exact List.Subset.refl _
  · exact RecordForm.Recognizes.map mk
        (.field (hmember "product_id") ((Reads.string _).recognizes rfl))
      |>.seq (.field (hmember "quantity") (hwire.reads.recognizes rfl))

theorem carries_toJson {line : RequestedLine} (hwire : IsInt64 line.quantity)
    {place inner : JsonPlace} (henter : place.enter = .ok inner) : place.Carries line.toJson := by
  apply Carries.ofMembers henter
  simp only [List.forall_mem_cons]
  exact ⟨.string _, hwire.carries, List.forall_mem_nil _⟩

theorem yields_isInt64 : decoder.Yields fun line => IsInt64 line.quantity := by
  apply RecordForm.Yields.decode
  apply RecordForm.Yields.seq (.field "quantity" yields_int64)
  apply RecordForm.Yields.map (.anything (RecordForm.field "product_id" Decoder.string))
  intro _ _ _ hwire
  exact hwire

end RequestedLine

namespace ReservePayload

/-- The numbers of units of all lines are integers of 64 bits. -/
def IsWire (payload : ReservePayload) : Prop :=
  ∀ line ∈ payload.lines, IsInt64 line.quantity

theorem recognizes_toJson {payload : ReservePayload} (hwire : payload.IsWire) :
    decoder.Recognizes payload.toJson payload := by
  have hmember (name : String) : payload.toJson.member? name = _ :=
    Json.member?_ofMembers (by simp) name
  have hlines : (Decoder.list RequestedLine.decoder).Recognizes
      (.array (payload.lines.map RequestedLine.toJson)) payload.lines :=
    .list fun line hmem => RequestedLine.recognizes_toJson (hwire line hmem)
  apply RecordForm.Recognizes.decode
  · exact List.Subset.refl _
  · exact RecordForm.Recognizes.map mk
        (.field (hmember "order_id") ((Reads.string _).recognizes rfl))
      |>.seq (.field (hmember "items") hlines)

theorem carries_toJson {payload : ReservePayload} (hwire : payload.IsWire) :
    JsonPlace.ofText.Carries payload.toJson := by
  have hlines : JsonPlace.Carries ⟨true, 1⟩ (.array (payload.lines.map RequestedLine.toJson)) :=
    .map rfl fun line hmem => RequestedLine.carries_toJson (hwire line hmem) rfl
  apply Carries.ofMembers rfl
  simp only [List.forall_mem_cons]
  exact ⟨.string _, hlines, List.forall_mem_nil _⟩

theorem yields_isWire : decoder.Yields IsWire := by
  apply RecordForm.Yields.decode
  apply RecordForm.Yields.seq (.field "items" RequestedLine.yields_isInt64.list)
  apply RecordForm.Yields.map (.anything (RecordForm.field "order_id" Decoder.string))
  intro _ _ _ hwire
  exact hwire

end ReservePayload

namespace ReservationPayload

theorem recognizes_toJson (payload : ReservationPayload) :
    decoder.Recognizes payload.toJson payload := by
  have hmember (name : String) : payload.toJson.member? name = _ :=
    Json.member?_ofMembers (by simp) name
  apply RecordForm.Recognizes.decode
  · exact List.Subset.refl _
  · exact .map mk (.field (hmember "reservation_id") ((Reads.uuid _).recognizes rfl))

theorem carries_toJson (payload : ReservationPayload) :
    JsonPlace.ofText.Carries payload.toJson := by
  apply Carries.ofMembers rfl
  simp only [List.forall_mem_cons]
  exact ⟨.string _, List.forall_mem_nil _⟩

end ReservationPayload

namespace AdjustPayload

theorem recognizes_toJson {payload : AdjustPayload} (hwire : IsInt64 payload.quantity) :
    decoder.Recognizes payload.toJson payload := by
  have hmember (name : String) : payload.toJson.member? name = _ :=
    Json.member?_ofMembers (by simp) name
  apply RecordForm.Recognizes.decode
  · exact List.Subset.refl _
  · exact RecordForm.Recognizes.map mk
        (.field (hmember "product_id") ((Reads.string _).recognizes rfl))
      |>.seq (.field (hmember "adjustment_type") ((Reads.string _).recognizes rfl))
      |>.seq (.field (hmember "quantity") (hwire.reads.recognizes rfl))

theorem carries_toJson {payload : AdjustPayload} (hwire : IsInt64 payload.quantity) :
    JsonPlace.ofText.Carries payload.toJson := by
  apply Carries.ofMembers rfl
  simp only [List.forall_mem_cons]
  exact ⟨.string _, .string _, hwire.carries, List.forall_mem_nil _⟩

theorem yields_isInt64 : decoder.Yields fun payload => IsInt64 payload.quantity := by
  apply RecordForm.Yields.decode
  apply RecordForm.Yields.seq (.field "quantity" yields_int64)
  apply RecordForm.Yields.seq (.anything (RecordForm.field "adjustment_type" Decoder.string))
  apply RecordForm.Yields.map (.anything (RecordForm.field "product_id" Decoder.string))
  intro _ _ _ _ _ hwire
  exact hwire

end AdjustPayload

namespace CheckLine

/-- The number of units, if one is given, is an integer of 64 bits. -/
def IsWire (line : CheckLine) : Prop :=
  ∀ quantity ∈ line.quantity, IsInt64 quantity

theorem recognizes_toJson {line : CheckLine} (hwire : line.IsWire) :
    decoder.Recognizes line.toJson line := by
  have hmember (name : String) : line.toJson.member? name = _ :=
    Json.member?_ofMembers (by simp) name
  have hquantity : (Decoder.option Decoder.int64).Recognizes (.ofOption .int line.quantity)
      line.quantity :=
    .option (fun quantity hmem => (hwire quantity hmem).reads.recognizes rfl) fun _ =>
      Json.noConfusion
  apply RecordForm.Recognizes.decode
  · exact List.Subset.refl _
  · exact RecordForm.Recognizes.map mk
        (.field (hmember "product_id") ((Reads.string _).recognizes rfl))
      |>.seq (.nullable (hmember "quantity") hquantity)

theorem carries_toJson {line : CheckLine} (hwire : line.IsWire) {place inner : JsonPlace}
    (henter : place.enter = .ok inner) : place.Carries line.toJson := by
  apply Carries.ofMembers henter
  simp only [List.forall_mem_cons]
  exact ⟨.string _, .ofOption fun quantity hmem => (hwire quantity hmem).carries,
    List.forall_mem_nil _⟩

theorem yields_isWire : decoder.Yields IsWire := by
  have hquantity : (RecordForm.lenient "quantity" Decoder.int64).Yields fun quantity? =>
      ∀ quantity ∈ quantity?, IsInt64 quantity := by
    apply RecordForm.Yields.nullable _ "quantity" yields_int64.option
    rintro _ ⟨⟩
  apply RecordForm.Yields.decode
  apply RecordForm.Yields.seq hquantity
  apply RecordForm.Yields.map (.anything (RecordForm.field "product_id" Decoder.string))
  intro _ _ _ hwire
  exact hwire

end CheckLine

namespace CheckPayload

def IsWire (payload : CheckPayload) : Prop :=
  ∀ line ∈ payload.lines, line.IsWire

theorem recognizes_toJson {payload : CheckPayload} (hwire : payload.IsWire) :
    decoder.Recognizes payload.toJson payload := by
  have hmember (name : String) : payload.toJson.member? name = _ :=
    Json.member?_ofMembers (by simp) name
  have hlines : (Decoder.list CheckLine.decoder).Recognizes
      (.array (payload.lines.map CheckLine.toJson)) payload.lines :=
    .list fun line hmem => CheckLine.recognizes_toJson (hwire line hmem)
  apply RecordForm.Recognizes.decode
  · exact List.Subset.refl _
  · exact .map mk (.field (hmember "items") hlines)

theorem carries_toJson {payload : CheckPayload} (hwire : payload.IsWire) :
    JsonPlace.ofText.Carries payload.toJson := by
  have hlines : JsonPlace.Carries ⟨true, 1⟩ (.array (payload.lines.map CheckLine.toJson)) :=
    .map rfl fun line hmem => CheckLine.carries_toJson (hwire line hmem) rfl
  apply Carries.ofMembers rfl
  simp only [List.forall_mem_cons]
  exact ⟨hlines, List.forall_mem_nil _⟩

theorem yields_isWire : decoder.Yields IsWire := by
  apply RecordForm.Yields.decode
  apply RecordForm.Yields.map (.field "items" CheckLine.yields_isWire.list)
  intro _ hwire
  exact hwire

end CheckPayload

end Stockroom
