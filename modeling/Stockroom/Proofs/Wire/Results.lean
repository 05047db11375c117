import Stockroom.Proofs.Wire.Reply

/-!
# Results told from replies

A record of a processed command holds a whole reply, or in older records the
result alone.  What tells them apart is that no result reads as a reply: an
object has no command id in it, and an array does not begin with an id.
-/

namespace Stockroom

open JsonSource (ofJson)

namespace Reply

/-- An object without a command id is no reply. -/
theorem decoder_error_of_members {members : List (String × Json)}
    (hdistinct : (members.map Prod.fst).Nodup)
    (hmissing : SortedMap.entryValue? "command_id" members = none) (place : JsonPlace) :
    ∃ error, decoder place (ofJson (.ofMembers members)) = .error error := by
  have hnone : SortedMap.entryValue? "command_id" (SortedMap.ofList members).entries = none :=
    (SortedMap.find?_ofList hdistinct "command_id").trans hmissing
  rw [Json.ofMembers_eq]
  apply @RecordForm.decode_error_of_missing _ _
    ⟨"command_id", .refused, RecordForm.checking Decoder.uuid⟩ _ rfl _ hnone
  exact List.mem_cons_of_mem _ List.mem_cons_self

/-- An array of objects is no reply, and neither is an empty one. -/
theorem decoder_error_of_objects {α : Type} {encode : α → Json}
    (hobject : ∀ value, ∃ members, encode value = .object members) (values : List α)
    (place : JsonPlace) :
    ∃ error, decoder place (ofJson (.array (values.map encode))) = .error error := by
  apply RecordForm.decode_error_of_array rfl rfl
  intro first hfirst inner
  obtain ⟨value, _, rfl⟩ := List.mem_map.1 (List.mem_of_mem_head? hfirst)
  obtain ⟨members, hmembers⟩ := hobject value
  rw [hmembers]
  exact ⟨_, rfl⟩

end Reply

namespace Dispatch

/-- The values that a command can come to when it is carried out. -/
inductive IsResult : Json → Prop
  | reservation (reservation : Reservation) : IsResult reservation.toJson
  | outcome (outcome : Outcome) : IsResult outcome.toResult
  | record (record : StockRecord) : IsResult record.toJson
  | checked (answers : List Availability) : IsResult (.array (answers.map Availability.toJson))

/-- No result reads as a reply. -/
theorem IsResult.decoder_error {result : Json} (hresult : IsResult result) (place : JsonPlace) :
    ∃ error, Reply.decoder place (ofJson result) = .error error := by
  cases hresult with
  | reservation reservation =>
    exact Reply.decoder_error_of_members (by simp) (by simp [SortedMap.entryValue?]) place
  | outcome outcome =>
    exact Reply.decoder_error_of_members (by simp) (by simp [SortedMap.entryValue?]) place
  | record record =>
    exact Reply.decoder_error_of_members (by simp) (by simp [SortedMap.entryValue?]) place
  | checked answers =>
    apply Reply.decoder_error_of_objects
    intro answer
    exact ⟨_, Json.ofMembers_eq _⟩

/-- A result is written as a canonical value other than null. -/
theorem IsResult.written {result : Json} (hresult : IsResult result) :
    result.IsCanonical ∧ result ≠ .null := by
  cases hresult with
  | reservation reservation => exact ⟨reservation.isCanonical_toJson, Json.ofMembers_ne_null _⟩
  | outcome outcome => exact ⟨outcome.isCanonical_toResult, Json.ofMembers_ne_null _⟩
  | record record => exact ⟨record.isCanonical_toJson, Json.ofMembers_ne_null _⟩
  | checked answers =>
    exact ⟨Json.isCanonical_map Availability.isCanonical_toJson answers, Json.noConfusion⟩

end Dispatch

end Stockroom
