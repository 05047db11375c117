import Stockroom.Proofs.Wire.Records

/-!
# Wire round trip

The ten types of records that are sent, kept or asked for.  A record is read
back from its form as it was, from the value as from any text of it, and what
is read from anything at all is a record that is read back.
-/

namespace Stockroom

/-- The types of records on the wire. -/
inductive WireForm where
  | stockRecord
  | reservation
  | adjustment
  | command
  | reply
  | reservePayload
  | reservationPayload
  | adjustPayload
  | checkPayload
  | availability
deriving DecidableEq, Repr

namespace WireForm

abbrev Value : WireForm → Type
  | stockRecord => StockRecord
  | reservation => Reservation
  | adjustment => Adjustment
  | command => Command
  | reply => Reply
  | reservePayload => ReservePayload
  | reservationPayload => ReservationPayload
  | adjustPayload => AdjustPayload
  | checkPayload => CheckPayload
  | availability => Availability

def toJson : (form : WireForm) → form.Value → Json
  | stockRecord => StockRecord.toJson
  | reservation => Reservation.toJson
  | adjustment => Adjustment.toJson
  | command => Command.toJson
  | reply => Reply.toJson
  | reservePayload => ReservePayload.toJson
  | reservationPayload => ReservationPayload.toJson
  | adjustPayload => AdjustPayload.toJson
  | checkPayload => CheckPayload.toJson
  | availability => Availability.toJson

def decoder : (form : WireForm) → Decoder form.Value
  | stockRecord => StockRecord.decoder
  | reservation => Reservation.decoder
  | adjustment => Adjustment.decoder
  | command => Command.decoder
  | reply => Reply.decoder
  | reservePayload => ReservePayload.decoder
  | reservationPayload => ReservationPayload.decoder
  | adjustPayload => AdjustPayload.decoder
  | checkPayload => CheckPayload.decoder
  | availability => Availability.decoder

/-- The parts of a record that may be any value. -/
def freeParts : (form : WireForm) → form.Value → List Json
  | command, value => [value.payload]
  | reply, value => value.result.toList
  | _, _ => []

/-- Every number of units fits the type that it has on the wire, and the members of every object in
the free parts stand in ascending order. -/
def IsWire : (form : WireForm) → form.Value → Prop
  | command, value => value.payload.IsCanonical
  | reply, value => value.IsCanonical
  | reservePayload, value => value.IsWire
  | adjustPayload, value => IsInt64 value.quantity
  | checkPayload, value => value.IsWire
  | availability, value => value.IsWire
  | stockRecord, _ | reservation, _ | adjustment, _ | reservationPayload, _ => True

/-- A record as it is read back.  Only a result that is null is read back as no result. -/
def asRead : (form : WireForm) → form.Value → form.Value
  | reply, value => value.asRead
  | _, value => value

/-- The quantities in a record. -/
def quantities : (form : WireForm) → form.Value → List Quantity
  | stockRecord, value => [value.available, value.reserved, value.lowStockThreshold]
  | reservation, value => value.lines.map ReservationLine.quantity
  | adjustment, value => [value.quantity]
  | _, _ => []

/-- The ids of products in a record. -/
def products : (form : WireForm) → form.Value → List ProductId
  | stockRecord, value => [value.product]
  | reservation, value => value.lines.map ReservationLine.product
  | _, _ => []

variable {form : WireForm} {value : form.Value}

/-- Every record is recognized in its form. -/
theorem recognizes_toJson : ∀ {form : WireForm} {value : form.Value}, form.IsWire value →
    form.decoder.Recognizes (form.toJson value) (form.asRead value)
  | stockRecord, value, _ => value.recognizes_toJson
  | reservation, value, _ => value.recognizes_toJson
  | adjustment, value, _ => value.recognizes_toJson
  | command, _, hwire => Command.recognizes_toJson hwire
  | reply, _, hwire => Reply.recognizes_asRead hwire
  | reservePayload, _, hwire => ReservePayload.recognizes_toJson hwire
  | reservationPayload, value, _ => value.recognizes_toJson
  | adjustPayload, _, hwire => AdjustPayload.recognizes_toJson hwire
  | checkPayload, _, hwire => CheckPayload.recognizes_toJson hwire
  | availability, _, hwire => Availability.recognizes_toJson hwire

/-- A text can hold the form of a record if it can hold the free parts. -/
theorem carries_toJson : ∀ {form : WireForm} {value : form.Value}, form.IsWire value →
    (∀ part ∈ form.freeParts value, JsonPlace.Carries ⟨true, 1⟩ part) →
      JsonPlace.ofText.Carries (form.toJson value)
  | stockRecord, value, _, _ => value.carries_toJson
  | reservation, value, _, _ => value.carries_toJson
  | adjustment, value, _, _ => value.carries_toJson
  | command, _, _, hfree => Command.carries_toJson (hfree _ List.mem_cons_self)
  | reply, _, _, hfree =>
    Reply.carries_toJson fun result hresult => hfree result (Option.mem_toList.2 hresult)
  | reservePayload, _, hwire, _ => ReservePayload.carries_toJson hwire
  | reservationPayload, value, _, _ => value.carries_toJson
  | adjustPayload, _, hwire, _ => AdjustPayload.carries_toJson hwire
  | checkPayload, _, hwire, _ => CheckPayload.carries_toJson hwire
  | availability, _, hwire, _ => Availability.carries_toJson hwire

/-- Whatever is read as a record fits the wire, and is read back exactly. -/
theorem yields_isWire (form : WireForm) :
    form.decoder.Yields fun value => form.IsWire value ∧ form.asRead value = value := by
  cases form with
  | stockRecord | reservation | adjustment | reservationPayload =>
    exact (Decoder.Yields.anything _).mono fun value _ => ⟨trivial, rfl⟩
  | command => exact Command.yields_isCanonical.mono fun value hwire => ⟨hwire, rfl⟩
  | reply =>
    exact Reply.yields_isWritten.mono fun value hwritten =>
      ⟨hwritten.isCanonical, Reply.asRead_of_isWritten hwritten⟩
  | reservePayload => exact ReservePayload.yields_isWire.mono fun value hwire => ⟨hwire, rfl⟩
  | adjustPayload => exact AdjustPayload.yields_isInt64.mono fun value hwire => ⟨hwire, rfl⟩
  | checkPayload => exact CheckPayload.yields_isWire.mono fun value hwire => ⟨hwire, rfl⟩
  | availability => exact Availability.yields_isWire.mono fun value hwire => ⟨hwire, rfl⟩

/-- A record is read from some value or from some text. -/
def IsDecoded (form : WireForm) (value : form.Value) : Prop :=
  (∃ json, Decoder.ofWholeValue form.decoder json = .ok value) ∨
    ∃ text, Decoder.ofWholeText form.decoder text = .ok value

/-- A record is read as another one from its form as a value, and from every text of its form if a
text can hold the free parts, whichever order the members of its objects are written in. -/
structure ReadsBack (form : WireForm) (value read : form.Value) : Prop where
  fromValue : Decoder.ofWholeValue form.decoder (form.toJson value) = .ok read
  fromText : (∀ part ∈ form.freeParts value, JsonPlace.Carries ⟨true, 1⟩ part) →
    ∀ shown : Json, shown.Reorders (form.toJson value) →
      Decoder.ofWholeText form.decoder shown.text = .ok read

theorem readsBack (hwire : form.IsWire value) : form.ReadsBack value (form.asRead value) where
  fromValue := (recognizes_toJson hwire).reads.ofValue
  fromText hfree shown hshown :=
    (recognizes_toJson hwire shown hshown).ofWholeText
      (hshown.carries (carries_toJson hwire hfree))

theorem IsDecoded.isWire (hdecoded : form.IsDecoded value) :
    form.IsWire value ∧ form.asRead value = value := by
  rcases hdecoded with ⟨json, hread⟩ | ⟨text, hread⟩
  · exact form.yields_isWire _ _ value hread
  · exact Decoder.Yields.ofWholeText form.yields_isWire hread

/-- Every record is read back from its form as it was, but for a reply whose result is null, which
is read back without a result.  What is read from anything as a record has no quantity beyond the
greatest one and no blank product id, and is itself read back as it is. -/
theorem round_trip (form : WireForm) :
    (∀ value, form.IsWire value → form.ReadsBack value (form.asRead value)) ∧
      ∀ value, form.IsDecoded value →
        (∀ quantity ∈ form.quantities value, quantity.value ≤ Quantity.maximum) ∧
          (∀ product ∈ form.products value, Text.isBlank product.text = false) ∧
          form.ReadsBack value value := by
  refine ⟨fun value hwire => readsBack hwire, fun value hdecoded => ?_⟩
  obtain ⟨hwire, hexactly⟩ := hdecoded.isWire
  refine ⟨fun quantity _ => quantity.value_le, fun product _ => product.notBlank, ?_⟩
  have hback := readsBack hwire
  rw [hexactly] at hback
  exact hback

/-- A reply with a null result loses it, a command with a payload of any kind keeps it, and so does
the command that is read from its text. -/
theorem round_trip_of_null_result :
    let id := Uuid.ofNat 7
    let null : Reply := ⟨id, id, id, .success, some .null, none, some "Conflict", .epoch⟩
    let payload := Json.ofMembers
      [("items", .array [.int (-5), .bool true]), ("", .string "a \"quoted\"\n line")]
    let asked : Command := ⟨id, id, .checkStock, payload, "key", .epoch⟩
    Decoder.ofWholeText Reply.decoder null.toJson.text = .ok { null with result := none } ∧
      Decoder.ofWholeText Command.decoder asked.toJson.text = .ok asked ∧
      command.ReadsBack asked asked := by
  intro id null payload asked
  have hnull : reply.IsWire null := by
    rintro _ ⟨⟩
    exact .null
  have hpayload : command.IsWire asked := by
    apply Json.isCanonical_ofMembers
    simp only [List.forall_mem_cons]
    refine ⟨.array ?_, .string _, List.forall_mem_nil _⟩
    simp only [List.forall_mem_cons]
    exact ⟨.number _, .bool _, List.forall_mem_nil _⟩
  have hresult : ∀ part ∈ reply.freeParts null, JsonPlace.Carries ⟨true, 1⟩ part :=
    List.forall_mem_singleton.2 .null
  have hitems : JsonPlace.Carries ⟨true, 2⟩ (.array [.int (-5), .bool true]) := by
    apply JsonPlace.Carries.array rfl
    simp only [List.forall_mem_cons]
    exact ⟨.integer (by decide) (by decide), .bool _, List.forall_mem_nil _⟩
  have hparts : JsonPlace.Carries ⟨true, 1⟩ payload := by
    apply JsonPlace.Carries.ofMembers rfl
    simp only [List.forall_mem_cons]
    exact ⟨hitems, .string _, List.forall_mem_nil _⟩
  have hcarries : ∀ part ∈ command.freeParts asked, JsonPlace.Carries ⟨true, 1⟩ part :=
    List.forall_mem_singleton.2 hparts
  have hread := ((round_trip command).1 asked hpayload).fromText hcarries _ (.refl _)
  refine ⟨((round_trip reply).1 null hnull).fromText hresult _ (.refl _), hread, ?_⟩
  exact ((round_trip command).2 asked (.inr ⟨_, hread⟩)).2.2

end WireForm

end Stockroom
