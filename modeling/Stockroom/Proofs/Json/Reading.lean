import Stockroom.Json.RecordForm
import Stockroom.Proofs.SortedMap
import Stockroom.Proofs.Stock.Arithmetic
import Stockroom.Proofs.Time.Rfc3339
import Stockroom.Proofs.Uuid
import Stockroom.Wire.Scalar

/-!
# What decoders read

A decoder reads a value from one of its forms if it finds that value at every
place of a source where the form is not nested too deeply.
-/

namespace Stockroom

open JsonSource (ofJson ofItems ofMembers)

/-! ## Places -/

namespace JsonPlace

/-- The arrays and objects of a value can all be entered at a place. -/
inductive Fits : JsonPlace → Json → Prop
  | null (place : JsonPlace) : Fits place .null
  | bool (place : JsonPlace) (value : Bool) : Fits place (.bool value)
  | number (place : JsonPlace) (value : JsonNumber) : Fits place (.number value)
  | string (place : JsonPlace) (value : String) : Fits place (.string value)
  | array {place inner : JsonPlace} {items : List Json} (henter : place.enter = .ok inner)
    (hitems : ∀ item ∈ items, Fits inner item) : Fits place (.array items)
  | object {place inner : JsonPlace} {members : List (String × Json)}
    (henter : place.enter = .ok inner) (hmembers : ∀ member ∈ members, Fits inner member.2) :
    Fits place (.object members)

/-- Outside of texts any value can be nested as deeply as it likes. -/
theorem enter_of_value {place : JsonPlace} (hvalue : place.fromText = false) :
    ∃ inner, place.enter = .ok inner ∧ inner.fromText = false := by
  refine ⟨{ place with depth := place.depth + 1 }, ?_, hvalue⟩
  rw [enter, if_neg]
  simp [hvalue]

mutual

theorem fits_of_value : ∀ (json : Json) {place : JsonPlace}, place.fromText = false →
    place.Fits json
  | .null, place, _ => .null place
  | .bool value, place, _ => .bool place value
  | .number value, place, _ => .number place value
  | .string value, place, _ => .string place value
  | .array items, _, hvalue =>
    have ⟨_, henter, hinner⟩ := enter_of_value hvalue
    .array henter (items_fit_of_value items hinner)
  | .object members, _, hvalue =>
    have ⟨_, henter, hinner⟩ := enter_of_value hvalue
    .object henter (members_fit_of_value members hinner)

theorem items_fit_of_value : ∀ (items : List Json) {place : JsonPlace}, place.fromText = false →
    ∀ item ∈ items, place.Fits item
  | [], _, _ => fun _ hmem => (List.not_mem_nil hmem).elim
  | item :: rest, _, hvalue => List.forall_mem_cons.2
    ⟨fits_of_value item hvalue, items_fit_of_value rest hvalue⟩

theorem members_fit_of_value : ∀ (members : List (String × Json)) {place : JsonPlace},
    place.fromText = false → ∀ member ∈ members, place.Fits member.2
  | [], _, _ => fun _ hmem => (List.not_mem_nil hmem).elim
  | (_, json) :: rest, _, hvalue => List.forall_mem_cons.2
    ⟨fits_of_value json hvalue, members_fit_of_value rest hvalue⟩

end

end JsonPlace

/-! ## Decoders -/

namespace Decoder

variable {α β : Type}

/-- A decoder finds a value in one of its forms, wherever the form fits. -/
def Reads (decode : Decoder α) (json : Json) (value : α) : Prop :=
  ∀ place : JsonPlace, place.Fits json → decode place (ofJson json) = .ok value

namespace Reads

theorem ofValue {decode : Decoder α} {json : Json} {value : α} (hreads : decode.Reads json value) :
    decode .ofValue (ofJson json) = .ok value :=
  hreads .ofValue (JsonPlace.fits_of_value json rfl)

theorem stringAs (expected text : String) : (stringAs expected).Reads (.string text) text :=
  fun _ _ => rfl

theorem string (text : String) : string.Reads (.string text) text :=
  stringAs "a string" text

theorem refine {decode : Decoder α} {convert : α → Except String β} {json : Json} {value : α}
    {result : β} (hreads : decode.Reads json value) (hconvert : convert value = .ok result) :
    (refine decode convert).Reads json result := by
  intro place hfits
  rw [Decoder.refine, hreads place hfits, ok_bind, hconvert, mapError_ok]

theorem uuid (id : Uuid) : uuid.Reads id.toJson id := by
  apply refine (stringAs _ _)
  rw [Uuid.ofText_text, mapError_ok]

theorem instant (moment : Instant) : instant.Reads moment.toJson moment := by
  apply refine (stringAs _ _)
  rw [Rfc3339.ofText_text, mapError_ok]

/-- A variant is known by its name. -/
theorem variant {variants : List (String × α)} {name : String} {value : α}
    (hfound : variants.lookup name = some value) :
    (variant variants).Reads (.string name) value := by
  intro place _
  change variantNamed variants name = .ok value
  rw [variantNamed, hfound]

theorem option_none (decode : Decoder α) : (option decode).Reads .null none :=
  fun _ _ => rfl

theorem option_some {decode : Decoder α} {json : Json} {value : α}
    (hreads : decode.Reads json value) (hsome : json ≠ .null) :
    (option decode).Reads json (some value) := by
  intro place hfits
  have hread := hreads place hfits
  cases json with
  | null => exact absurd rfl hsome
  | _ => exact congrArg (Except.map some) hread

end Reads

end Decoder

/-! ## Records -/

namespace RecordForm

variable {α β : Type}

/-- The fields of a form find their values in the members of an object, wherever these fit, and
make a record of them. -/
structure Reads (form : RecordForm α) (json : Json) (value : α) : Prop where
  checks : ∀ rule ∈ form.fields, match json.member? rule.name with
    | some part => ∀ place : JsonPlace, place.Fits part → rule.check place (ofJson part) = .ok ()
    | none => rule.absence ≠ .refused
  builds : ∀ (place : JsonPlace) (sources : String → Option JsonSource),
    (∀ name, sources name = (json.member? name).map ofJson) →
    (∀ name part, json.member? name = some part → place.Fits part) →
      form.build place sources = .ok value

namespace Reads

variable {json part : Json} {name : String}

theorem pure (value : α) : Reads (Pure.pure value) json value where
  checks _ hmem := (List.not_mem_nil hmem).elim
  builds _ _ _ _ := rfl

theorem seq {function : RecordForm (α → β)} {argument : RecordForm α} {apply : α → β} {value : α}
    (hfunction : function.Reads json apply) (hargument : argument.Reads json value) :
    (function <*> argument).Reads json (apply value) where
  checks rule hmem := by
    rcases List.mem_append.1 hmem with hmem | hmem
    · exact hfunction.checks rule hmem
    · exact hargument.checks rule hmem
  builds place sources hsources hfits := by
    change (function.build place sources >>= _) = _
    rw [hfunction.builds place sources hsources hfits, ok_bind,
      hargument.builds place sources hsources hfits]
    rfl

theorem map {form : RecordForm α} {value : α} (convert : α → β) (hform : form.Reads json value) :
    (convert <$> form).Reads json (convert value) :=
  (pure convert).seq hform

/-- A form of one field, which decodes what is found under its name. -/
theorem ofMember {form : RecordForm α} {decode : Decoder α} {absence : FieldAbsence} {value : α}
    (hfields : form.fields = [⟨name, absence, checking decode⟩])
    (hbuild : ∀ place sources source, sources name = some source →
      form.build place sources = decode place source)
    (hmember : json.member? name = some part) (hreads : decode.Reads part value) :
    form.Reads json value where
  checks rule hmem := by
    rw [hfields, List.mem_singleton] at hmem
    rw [hmem]
    dsimp only
    rw [hmember]
    intro place hfits
    rw [checking, hreads place hfits]
    rfl
  builds place sources hsources hfits := by
    have hsource : sources name = some (ofJson part) := by
      rw [hsources, hmember]
      rfl
    rw [hbuild place sources _ hsource]
    exact hreads place (hfits name part hmember)

theorem field {decode : Decoder α} {value : α} (hmember : json.member? name = some part)
    (hreads : decode.Reads part value) : (field name decode).Reads json value := by
  apply ofMember rfl _ hmember hreads
  intro place sources source hsource
  simp only [RecordForm.field, hsource]

theorem nullable {decode : Decoder α} {value? : Option α} {absence : FieldAbsence}
    (hmember : json.member? name = some part) (hreads : (Decoder.option decode).Reads part value?) :
    (nullable absence name decode).Reads json value? := by
  apply ofMember rfl _ hmember hreads
  intro place sources source hsource
  simp only [RecordForm.nullable, hsource]

end Reads

/-! ## Objects -/

/-- The sources of the members of an object. -/
def sourcesOf (members : List (String × Json)) : List (String × JsonSource) :=
  members.map fun member => (member.1, ofJson member.2)

theorem lookup_sourcesOf (members : List (String × Json)) (name : String) :
    (sourcesOf members).lookup name = (SortedMap.entryValue? name members).map ofJson := by
  induction members with
  | nil => rfl
  | cons member rest ih =>
    rw [sourcesOf, List.map_cons, List.lookup_cons, SortedMap.entryValue?]
    by_cases hname : member.1 = name
    · simp [hname]
    · have hother : (name == member.1) = false := beq_false_of_ne (Ne.symm hname)
      rw [hother, if_neg hname]
      exact ih

/-- Members that are known and distinct are all kept. -/
theorem gather_eq {fields : List FieldRule} {place : JsonPlace}
    (members : List (String × Json)) (known : List (String × JsonSource))
    (hdistinct : (members.map Prod.fst).Nodup)
    (hknown : ∀ member ∈ members, known.lookup member.1 = none)
    (hchecked : ∀ member ∈ members, ∃ rule,
      fields.find? (fun rule => rule.name == member.1) = some rule ∧
        rule.check place (ofJson member.2) = .ok ()) :
    gather fields place known (ofMembers members) = .ok (known ++ sourcesOf members) := by
  induction members generalizing known with
  | nil => simp [ofMembers, gather, sourcesOf]
  | cons member rest ih =>
    rw [List.map_cons, List.nodup_cons] at hdistinct
    rw [List.forall_mem_cons] at hknown hchecked
    obtain ⟨⟨rule, hrule, hcheck⟩, hchecked⟩ := hchecked
    have hrest : ∀ later ∈ rest,
        (known ++ [(member.1, ofJson member.2)]).lookup later.1 = none := by
      intro later hmem
      have hother : (later.1 == member.1) = false := by
        apply beq_false_of_ne
        intro hname
        exact hdistinct.1 (hname ▸ List.mem_map_of_mem hmem)
      rw [List.lookup_append, hknown.2 later hmem, List.lookup_cons, hother]
      rfl
    rw [ofMembers, gather, Decoder.ofFlaw, mapError_ok, ok_bind]
    simp only [hrule, hknown.1, Option.isSome_none, Bool.false_eq_true, if_false, hcheck]
    rw [ok_bind, ih _ hdistinct.2 hrest hchecked, List.append_assoc]
    rfl

theorem requireFields_eq {fields : List FieldRule} {known : List (String × JsonSource)}
    (hfound : ∀ rule ∈ fields, known.lookup rule.name = none → rule.absence ≠ .refused) :
    requireFields known fields = .ok () := by
  induction fields with
  | nil => rfl
  | cons rule rest ih =>
    rw [List.forall_mem_cons] at hfound
    rw [requireFields, if_neg]
    · exact ih hfound.2
    · rintro ⟨hrefused, habsent⟩
      exact hfound.1 (Option.isNone_iff_eq_none.1 habsent) hrefused

/-- A record is read from an object that has its fields and no others, in whichever order. -/
theorem Reads.decode_object {form : RecordForm α} {members : List (String × Json)} {value : α}
    (recordName : String) (hdistinct : (members.map Prod.fst).Nodup)
    (hknown : members.map Prod.fst ⊆ form.fields.map FieldRule.name)
    (hreads : form.Reads (.object members) value) :
    (decode recordName form).Reads (.object members) value := by
  intro place hfits
  have hfinds {name : String} {part : Json} (hmem : (name, part) ∈ members) :
      (Json.object members).member? name = some part :=
    SortedMap.entryValue?_eq_some_of_mem (List.pairwise_map.1 hdistinct) hmem
  have hlookup (name : String) : (sourcesOf members).lookup name =
      ((Json.object members).member? name).map ofJson :=
    lookup_sourcesOf members name
  cases hfits with
  | @object _ inner _ henter hparts =>
    have hchecked (member : String × Json) (hmem : member ∈ members) : ∃ rule,
        form.fields.find? (fun rule => rule.name == member.1) = some rule ∧
          rule.check inner (ofJson member.2) = .ok () := by
      obtain ⟨known, hfield, hname⟩ := List.mem_map.1 (hknown (List.mem_map_of_mem hmem))
      have hsome : (form.fields.find? (fun rule => rule.name == member.1)).isSome := by
        rw [List.find?_isSome]
        exact ⟨known, hfield, by simp [hname]⟩
      obtain ⟨rule, hrule⟩ := Option.isSome_iff_exists.1 hsome
      have hsame : rule.name = member.1 := by simpa using List.find?_some hrule
      have hcheck := hreads.checks rule (List.mem_of_find?_eq_some hrule)
      rw [hsame, hfinds hmem] at hcheck
      exact ⟨rule, hrule, hcheck inner (hparts member hmem)⟩
    have hgathered : gather form.fields inner [] (ofMembers members) = .ok (sourcesOf members) :=
      gather_eq members [] hdistinct (fun _ _ => rfl) hchecked
    have hrequired : requireFields (sourcesOf members) form.fields = .ok () := by
      apply requireFields_eq
      intro rule hrule habsent
      have hcheck := hreads.checks rule hrule
      rw [hlookup, Option.map_eq_none_iff] at habsent
      rw [habsent] at hcheck
      exact hcheck
    have hbuilt : form.build inner (fun name => (sourcesOf members).lookup name) = .ok value :=
      hreads.builds inner _ hlookup fun name part hpart =>
        hparts (name, part) (SortedMap.mem_of_entryValue?_eq_some hpart)
    rw [ofJson, RecordForm.decode, henter, ok_bind, hgathered, ok_bind]
    change (requireFields (sourcesOf members) form.fields >>= _) = _
    rw [hrequired]
    exact hbuilt

end RecordForm

end Stockroom
