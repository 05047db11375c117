import Stockroom.Dispatch
import Stockroom.Proofs.Json.Ordering
import Stockroom.Proofs.Json.Yielding

/-!
# Replies read back

Whatever a command comes to is written as a canonical value other than null,
and a reply with such a result is read back from its form as it was.  A result
that is null is read back as none.
-/

namespace Stockroom

open Decoder (Reads Recognizes)

/-! ## Canonical forms -/

namespace Json

theorem ofMembers_ne_null (members : List (String × Json)) : ofMembers members ≠ null := by
  rw [ofMembers_eq]
  intro heq
  cases heq

theorem isCanonical_ofOption {α : Type} {encode : α → Json}
    (hcanonical : ∀ value, (encode value).IsCanonical) (value? : Option α) :
    (ofOption encode value?).IsCanonical := by
  cases value? with
  | none => exact .null
  | some value => exact hcanonical value

/-- A list of canonical values is canonical. -/
theorem isCanonical_map {α : Type} {encode : α → Json}
    (hcanonical : ∀ value, (encode value).IsCanonical) (values : List α) :
    (array (values.map encode)).IsCanonical := by
  apply IsCanonical.array
  intro item hmem
  obtain ⟨value, _, rfl⟩ := List.mem_map.1 hmem
  exact hcanonical value

end Json

theorem Instant.isCanonical_toJson (moment : Instant) : moment.toJson.IsCanonical :=
  .string _

theorem StockRecord.isCanonical_toJson (record : StockRecord) : record.toJson.IsCanonical := by
  apply Json.isCanonical_ofMembers
  simp only [List.forall_mem_cons]
  exact ⟨.string _, .string _, .number _, .number _, .number _,
    Json.isCanonical_ofOption Instant.isCanonical_toJson _, .string _, .string _,
    List.forall_mem_nil _⟩

theorem ReservationLine.isCanonical_toJson (line : ReservationLine) :
    line.toJson.IsCanonical := by
  apply Json.isCanonical_ofMembers
  simp only [List.forall_mem_cons]
  exact ⟨.string _, .number _, List.forall_mem_nil _⟩

theorem Reservation.isCanonical_toJson (reservation : Reservation) :
    reservation.toJson.IsCanonical := by
  apply Json.isCanonical_ofMembers
  simp only [List.forall_mem_cons]
  exact ⟨.string _, .string _, Json.isCanonical_map ReservationLine.isCanonical_toJson _,
    .string _, .string _, .string _, .string _, List.forall_mem_nil _⟩

theorem Availability.isCanonical_toJson (availability : Availability) :
    availability.toJson.IsCanonical := by
  apply Json.isCanonical_ofMembers
  simp only [List.forall_mem_cons]
  exact ⟨.string _, .bool _, .number _, .number _, List.forall_mem_nil _⟩

theorem Outcome.isCanonical_toResult (outcome : Outcome) : outcome.toResult.IsCanonical := by
  apply Json.isCanonical_ofMembers
  simp only [List.forall_mem_cons]
  exact ⟨.string _, .string _, .bool _, List.forall_mem_nil _⟩

/-! ## Replies -/

/-- What is read of anything but null is not null. -/
theorem Decoder.json_ne_null {place : JsonPlace} {source : JsonSource} (hsource : source ≠ .null) :
    Decoder.json place source ≠ .ok .null := by
  intro hok
  cases source with
  | null => exact hsource rfl
  | bool _ | missing | unfinished | broken _ => cases hok
  | number value => cases value <;> cases hok
  | string text => cases text <;> cases hok
  | array sources flaw =>
    obtain ⟨_, _, _, hmade⟩ := of_json_array hok
    cases hmade
  | object sources flaw =>
    obtain ⟨_, members, _, hmade⟩ := of_json_object hok
    exact Json.ofMembers_ne_null members hmade.symm

/-- A value that may be missing is written as it stands there. -/
theorem Decoder.Yields.option_json : (Decoder.option Decoder.json).Yields fun value? =>
    ∀ value ∈ value?, value.IsCanonical ∧ value ≠ .null := by
  rintro place source _ hok value ⟨⟩
  obtain ⟨hsource, hread⟩ := of_option_eq_some hok
  refine ⟨Decoder.Yields.json place source value hread, ?_⟩
  rintro rfl
  exact json_ne_null hsource hread

namespace Reply

/-- The result of a reply, if it has one, is written as a canonical value other than null. -/
def IsWritten (reply : Reply) : Prop :=
  ∀ result ∈ reply.result, result.IsCanonical ∧ result ≠ .null

/-- Two replies report the same. -/
structure SameOutcome (left right : Reply) : Prop where
  status : left.status = right.status
  result : left.result = right.result
  error : left.error = right.error
  errorKind : left.errorKind = right.errorKind

theorem reads_status (status : ReplyStatus) : ReplyStatus.decoder.Reads status.toJson status := by
  apply Reads.variant
  cases status <;> decide

/-- A reply is recognized in its form, whichever order its members are in. -/
theorem recognizes_toJson {reply : Reply} (hwritten : reply.IsWritten) :
    decoder.Recognizes reply.toJson reply := by
  have hmember (name : String) : reply.toJson.member? name = _ :=
    Json.member?_ofMembers (by simp) name
  have hresult : (Decoder.option Decoder.json).Recognizes (reply.result.getD .null)
      reply.result := by
    cases hresult : reply.result with
    | none => exact (Reads.option_none Decoder.json).recognizes rfl
    | some result =>
      obtain ⟨hcanonical, hsome⟩ := hwritten result hresult
      exact .option_some (.json hcanonical) hsome
  have htext (text? : Option String) :
      (Decoder.option Decoder.string).Recognizes (.ofOption .string text?) text? :=
    .option (fun text _ => (Reads.string text).recognizes rfl) fun _ => Json.noConfusion
  apply RecordForm.Recognizes.decode
  · exact List.Subset.refl _
  · exact RecordForm.Recognizes.map mk (.field (hmember "id") ((Reads.uuid _).recognizes rfl))
      |>.seq (.field (hmember "command_id") ((Reads.uuid _).recognizes rfl))
      |>.seq (.field (hmember "saga_id") ((Reads.uuid _).recognizes rfl))
      |>.seq (.field (hmember "status") ((reads_status reply.status).recognizes rfl))
      |>.seq (.nullable (hmember "result") hresult)
      |>.seq (.nullable (hmember "error") (htext reply.error))
      |>.seq (.nullable (hmember "error_kind") (htext reply.errorKind))
      |>.seq (.field (hmember "created_at") ((Reads.instant _).recognizes rfl))

/-- A reply is read back from its form. -/
theorem reads_toJson {reply : Reply} (hwritten : reply.IsWritten) :
    decoder.Reads reply.toJson reply :=
  (recognizes_toJson hwritten).reads

/-- The result of a reply, if it has one, is written as a canonical value. -/
def IsCanonical (reply : Reply) : Prop :=
  ∀ result ∈ reply.result, result.IsCanonical

/-- A reply as it is read back, where a result that is null is no result. -/
def asRead (reply : Reply) : Reply :=
  { reply with result := match reply.result with
      | some .null => none
      | other => other }

theorem toJson_asRead (reply : Reply) : reply.asRead.toJson = reply.toJson := by
  have hresult : reply.asRead.result.getD .null = reply.result.getD .null := by
    dsimp only [asRead]
    split
    · rename_i hnull
      rw [hnull]
      rfl
    · rfl
  rw [toJson, hresult]
  rfl

theorem isWritten_asRead {reply : Reply} (hcanonical : reply.IsCanonical) :
    reply.asRead.IsWritten := by
  intro result hresult
  dsimp only [asRead] at hresult
  split at hresult
  · cases hresult
  · rename_i hother
    refine ⟨hcanonical result hresult, ?_⟩
    rintro rfl
    exact hother hresult

theorem asRead_of_ne_null {reply : Reply} (hother : reply.result ≠ some .null) :
    reply.asRead = reply := by
  rw [asRead]
  split
  · rename_i hnull
    exact absurd hnull hother
  · rfl

theorem asRead_of_isWritten {reply : Reply} (hwritten : reply.IsWritten) :
    reply.asRead = reply := by
  apply asRead_of_ne_null
  intro hnull
  exact (hwritten .null hnull).2 rfl

theorem IsWritten.isCanonical {reply : Reply} (hwritten : reply.IsWritten) : reply.IsCanonical :=
  fun result hresult => (hwritten result hresult).1

/-- A reply is recognized but for a result that is null. -/
theorem recognizes_asRead {reply : Reply} (hcanonical : reply.IsCanonical) :
    decoder.Recognizes reply.toJson reply.asRead := by
  rw [← toJson_asRead]
  exact recognizes_toJson (isWritten_asRead hcanonical)

/-- A reply that is read from anything has a written result, if it has one. -/
theorem yields_isWritten : decoder.Yields IsWritten := by
  have hresult : (RecordForm.optional "result" Decoder.json).Yields fun result? =>
      ∀ result ∈ result?, result.IsCanonical ∧ result ≠ .null := by
    apply RecordForm.Yields.nullable _ "result" .option_json
    rintro _ ⟨⟩
  apply RecordForm.Yields.decode
  apply RecordForm.Yields.seq (.anything (RecordForm.field "created_at" Decoder.instant))
  apply RecordForm.Yields.seq (.anything (RecordForm.lenient "error_kind" Decoder.string))
  apply RecordForm.Yields.seq (.anything (RecordForm.optional "error" Decoder.string))
  apply RecordForm.Yields.seq hresult
  apply RecordForm.Yields.seq (.anything (RecordForm.field "status" ReplyStatus.decoder))
  apply RecordForm.Yields.seq (.anything (RecordForm.field "saga_id" Decoder.uuid))
  apply RecordForm.Yields.seq (.anything (RecordForm.field "command_id" Decoder.uuid))
  apply RecordForm.Yields.map (.anything (RecordForm.field "id" Decoder.uuid))
  intro _ _ _ _ _ _ _ _ _ hwritten _ _ _ _ _ _
  exact hwritten

end Reply

end Stockroom
