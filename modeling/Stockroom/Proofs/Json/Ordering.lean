import Stockroom.Proofs.Json.Texts

/-!
# Reordered objects

The members of an object have no order.  A decoder recognizes a value that it
reads from some form if it reads it from that form in whichever order the
members of its objects are shown.
-/

namespace Stockroom

open JsonSource (ofJson ofItems ofMembers)

theorem SortedMap.entryValue?_perm {κ ν : Type} [DecidableEq κ] {left right : List (κ × ν)}
    (hperm : left.Perm right) (hdistinct : (left.map Prod.fst).Nodup) (key : κ) :
    entryValue? key left = entryValue? key right := by
  have hleft := List.pairwise_map.1 hdistinct
  have hright := List.pairwise_map.1 ((hperm.map Prod.fst).nodup_iff.1 hdistinct)
  apply Option.ext
  intro value
  constructor
  · intro hfound
    exact entryValue?_eq_some_of_mem hright (hperm.mem_iff.1 (mem_of_entryValue?_eq_some hfound))
  · intro hfound
    exact entryValue?_eq_some_of_mem hleft (hperm.mem_iff.2 (mem_of_entryValue?_eq_some hfound))

namespace Json

/-- A value is shown with the members of its objects in another order. -/
inductive Reorders : Json → Json → Prop
  | null : Reorders null null
  | bool (value : Bool) : Reorders (bool value) (bool value)
  | number (value : JsonNumber) : Reorders (number value) (number value)
  | string (value : String) : Reorders (string value) (string value)
  | array {items : List (Json × Json)} (hitems : ∀ item ∈ items, Reorders item.1 item.2) :
    Reorders (array (items.map Prod.fst)) (array (items.map Prod.snd))
  | object {members order : List (String × Json × Json)}
    (hmembers : ∀ member ∈ members, Reorders member.2.1 member.2.2) (horder : order.Perm members) :
    Reorders (object (order.map fun member => (member.1, member.2.1)))
      (object (members.map fun member => (member.1, member.2.2)))

theorem IsCanonical.exists_sorted {members : List (String × Json)}
    (hcanonical : (Json.object members).IsCanonical) :
    ∃ sorted : SortedMap String Json, members = sorted.entries ∧
      ∀ member ∈ members, member.2.IsCanonical := by
  generalize hjson : Json.object members = json at hcanonical
  cases hcanonical with
  | object sorted hmembers =>
    cases hjson
    exact ⟨sorted, rfl, hmembers⟩
  | _ => cases hjson

/-- An object that is made of distinct members is the same in any order of these. -/
theorem ofMembers_perm {left right : List (String × Json)} (hperm : left.Perm right)
    (hdistinct : (left.map Prod.fst).Nodup) : Json.ofMembers left = Json.ofMembers right := by
  have hsame : SortedMap.ofList left = SortedMap.ofList right := by
    apply SortedMap.ext_find?
    intro key
    rw [SortedMap.find?_ofList hdistinct,
      SortedMap.find?_ofList ((hperm.map Prod.fst).nodup_iff.1 hdistinct),
      SortedMap.entryValue?_perm hperm hdistinct]
  rw [ofMembers_eq, ofMembers_eq, hsame]

/-- A value that has no parts. -/
def isScalar : Json → Bool
  | array _ | object _ => false
  | _ => true

namespace Reorders

mutual

/-- Every value is shown as it is. -/
theorem refl : ∀ json : Json, Reorders json json
  | .null => null
  | .bool value => bool value
  | .number value => number value
  | .string value => string value
  | .array items => by
    have hitems := @array (items.map fun item => (item, item)) (reflItems items)
    simpa [Function.comp_def] using hitems
  | .object members => by
    have hmembers := object (reflMembers members) (.refl _)
    simpa [Function.comp_def] using hmembers

theorem reflItems : ∀ items : List Json, ∀ pair ∈ items.map fun item => (item, item),
    Reorders pair.1 pair.2
  | [] => List.forall_mem_nil _
  | item :: rest => List.forall_mem_cons.2 ⟨refl item, reflItems rest⟩

theorem reflMembers : ∀ members : List (String × Json),
    ∀ triple ∈ members.map fun member => (member.1, member.2, member.2),
      Reorders triple.2.1 triple.2.2
  | [] => List.forall_mem_nil _
  | (_, value) :: rest => List.forall_mem_cons.2 ⟨refl value, reflMembers rest⟩

end

variable {shown json : Json}

theorem isFloatless (hshown : shown.Reorders json) (hfloatless : json.IsFloatless) :
    shown.IsFloatless := by
  induction hshown with
  | null | bool _ | number _ | string _ => exact hfloatless
  | array _ ih =>
    cases hfloatless with
    | array hitems =>
      apply IsFloatless.array
      intro item hmem
      obtain ⟨pair, hpair, rfl⟩ := List.mem_map.1 hmem
      exact ih pair hpair (hitems pair.2 (List.mem_map_of_mem hpair))
  | object _ horder ih =>
    cases hfloatless with
    | object hmembers =>
      apply IsFloatless.object
      intro member hmem
      obtain ⟨found, hfound, rfl⟩ := List.mem_map.1 hmem
      have hmember := horder.mem_iff.1 hfound
      exact ih found hmember (hmembers _ (List.mem_map_of_mem hmember))

theorem fits (hshown : shown.Reorders json) {place : JsonPlace} (hfits : place.Fits json) :
    place.Fits shown := by
  induction hshown generalizing place with
  | null | bool _ | number _ | string _ => exact hfits
  | array _ ih =>
    cases hfits with
    | array henter hitems =>
      apply JsonPlace.Fits.array henter
      intro item hmem
      obtain ⟨pair, hpair, rfl⟩ := List.mem_map.1 hmem
      exact ih pair hpair (hitems pair.2 (List.mem_map_of_mem hpair))
  | object _ horder ih =>
    cases hfits with
    | object henter hmembers =>
      apply JsonPlace.Fits.object henter
      intro member hmem
      obtain ⟨found, hfound, rfl⟩ := List.mem_map.1 hmem
      have hmember := horder.mem_iff.1 hfound
      exact ih found hmember (hmembers _ (List.mem_map_of_mem hmember))

theorem carries (hshown : shown.Reorders json) {place : JsonPlace} (hcarries : place.Carries json) :
    place.Carries shown where
  floatless := hshown.isFloatless hcarries.floatless
  fits := hshown.fits hcarries.fits

theorem eq_of_isScalar (hshown : shown.Reorders json) (hscalar : json.isScalar = true) :
    shown = json := by
  cases hshown with
  | null | bool _ | number _ | string _ => rfl
  | array _ | object _ _ => cases hscalar

theorem ne_null (hshown : shown.Reorders json) (hsome : json ≠ .null) : shown ≠ .null := by
  cases hshown with
  | null => exact hsome
  | _ => exact Json.noConfusion

/-- An array is shown as an array of its items, each of them shown. -/
theorem exists_array {items : List Json} (hshown : shown.Reorders (.array items)) :
    ∃ pairs : List (Json × Json), shown = .array (pairs.map Prod.fst) ∧
      items = pairs.map Prod.snd ∧ ∀ pair ∈ pairs, pair.1.Reorders pair.2 := by
  cases hshown with
  | @array pairs hpairs => exact ⟨pairs, rfl, rfl, hpairs⟩

/-- An object is shown as an object of the same names. -/
theorem exists_object {members : List (String × Json)} (hshown : shown.Reorders (.object members)) :
    ∃ order, shown = .object order ∧ (order.map Prod.fst).Perm (members.map Prod.fst) ∧
      ∀ entry ∈ order, ∃ part, (entry.1, part) ∈ members ∧ entry.2.Reorders part := by
  cases hshown with
  | @object found order hmembers horder =>
    refine ⟨_, rfl, ?_, ?_⟩
    · rw [List.map_map, List.map_map]
      exact horder.map Prod.fst
    · intro entry hentry
      obtain ⟨member, hmember, rfl⟩ := List.mem_map.1 hentry
      have hfound := horder.mem_iff.1 hmember
      exact ⟨member.2.2, List.mem_map_of_mem hfound, hmembers member hfound⟩

end Reorders

end Json

/-! ## Decoders -/

namespace Decoder

variable {α β : Type}

/-- A decoder finds a value in one of its forms, whichever order the members of objects are in. -/
def Recognizes (decode : Decoder α) (json : Json) (value : α) : Prop :=
  ∀ shown : Json, shown.Reorders json → decode.Reads shown value

theorem Recognizes.reads {decode : Decoder α} {json : Json} {value : α}
    (hrecognizes : decode.Recognizes json value) : decode.Reads json value :=
  hrecognizes json (.refl json)

/-- Where there are no objects, there is no order. -/
theorem Reads.recognizes {decode : Decoder α} {json : Json} {value : α}
    (hreads : decode.Reads json value) (hscalar : json.isScalar = true) :
    decode.Recognizes json value := by
  intro shown hshown
  rw [hshown.eq_of_isScalar hscalar]
  exact hreads

theorem jsonItems_pairs {place : JsonPlace} {pairs : List (Json × Json)}
    (hpairs : ∀ pair ∈ pairs, Decoder.json place (ofJson pair.1) = .ok pair.2) :
    jsonItems place (ofItems (pairs.map Prod.fst)) = .ok (pairs.map Prod.snd) := by
  induction pairs with
  | nil => rfl
  | cons pair rest ih =>
    rw [List.forall_mem_cons] at hpairs
    rw [List.map_cons, ofItems, jsonItems, hpairs.1, ok_bind, ih hpairs.2]
    rfl

theorem jsonMembers_triples {place : JsonPlace} {members : List (String × Json × Json)}
    (hmembers : ∀ member ∈ members, Decoder.json place (ofJson member.2.1) = .ok member.2.2) :
    jsonMembers place (ofMembers (members.map fun member => (member.1, member.2.1))) =
      .ok (members.map fun member => (member.1, member.2.2)) := by
  induction members with
  | nil => rfl
  | cons member rest ih =>
    rw [List.forall_mem_cons] at hmembers
    rw [List.map_cons, ofMembers, jsonMembers]
    change (Decoder.json place (ofJson member.2.1) >>= _) = _
    rw [hmembers.1, ok_bind, ih hmembers.2]
    rfl

namespace Recognizes

/-- A canonical value is recognized in any order of its members. -/
theorem json {json : Json} (hcanonical : json.IsCanonical) :
    Decoder.json.Recognizes json json := by
  intro shown hshown place hfits
  induction hshown generalizing place with
  | null | bool _ | number _ | string _ => rfl
  | @array pairs _ ih =>
    cases hcanonical with
    | array hcanonicals =>
      cases hfits with
      | @array _ inner _ henter hparts =>
        have hitems : jsonItems inner (ofItems (pairs.map Prod.fst)) =
            .ok (pairs.map Prod.snd) := by
          apply jsonItems_pairs
          intro pair hpair
          exact ih pair hpair (hcanonicals _ (List.mem_map_of_mem hpair)) inner
            (hparts _ (List.mem_map_of_mem hpair))
        rw [ofJson, Decoder.json, henter, ok_bind, hitems]
        rfl
  | @object members order _ horder ih =>
    obtain ⟨sorted, hsorted, hcanonicals⟩ := Json.IsCanonical.exists_sorted hcanonical
    cases hfits with
    | @object _ inner _ henter hparts =>
      have hread : jsonMembers inner (ofMembers (order.map fun member => (member.1, member.2.1))) =
          .ok (order.map fun member => (member.1, member.2.2)) := by
        apply jsonMembers_triples
        intro member hmember
        have hfound := horder.mem_iff.1 hmember
        have hpart : member.2.2.IsCanonical :=
          hcanonicals (member.1, member.2.2) (List.mem_map_of_mem hfound)
        exact ih member hfound hpart inner (hparts _ (List.mem_map_of_mem hmember))
      have hsame : Json.ofMembers (order.map fun member => (member.1, member.2.2)) =
          .object (members.map fun member => (member.1, member.2.2)) := by
        have hperm := horder.map fun member => (member.1, member.2.2)
        have hdistinct :
            ((members.map fun member => (member.1, member.2.2)).map Prod.fst).Nodup := by
          rw [hsorted]
          exact List.pairwise_map.2 sorted.keys_distinct
        rw [← Json.ofMembers_perm hperm.symm hdistinct, hsorted, Json.ofMembers_entries]
      rw [ofJson, Decoder.json, henter, ok_bind, hread]
      exact congrArg Except.ok hsame

theorem option_some {decode : Decoder α} {json : Json} {value : α}
    (hrecognizes : decode.Recognizes json value) (hsome : json ≠ .null) :
    (option decode).Recognizes json (some value) := by
  intro shown hshown
  exact (hrecognizes shown hshown).option_some (hshown.ne_null hsome)

/-- A value that may be missing is shown as null where it is. -/
theorem option {decode : Decoder α} {encode : α → Json} {value? : Option α}
    (hrecognizes : ∀ value ∈ value?, decode.Recognizes (encode value) value)
    (hsome : ∀ value, encode value ≠ .null) :
    (option decode).Recognizes (.ofOption encode value?) value? := by
  cases value? with
  | none => exact (Reads.option_none decode).recognizes rfl
  | some value => exact option_some (hrecognizes value rfl) (hsome value)

theorem items {decode : Decoder α} {encode : α → Json} {place : JsonPlace}
    {pairs : List (Json × Json)} {values : List α}
    (hpairs : ∀ pair ∈ pairs, pair.1.Reorders pair.2 ∧ place.Fits pair.1)
    (hvalues : values.map encode = pairs.map Prod.snd)
    (hrecognizes : ∀ value ∈ values, decode.Recognizes (encode value) value) :
    Decoder.items decode place (ofItems (pairs.map Prod.fst)) = .ok values := by
  induction pairs generalizing values with
  | nil =>
    rw [List.map_eq_nil_iff.1 hvalues]
    rfl
  | cons pair rest ih =>
    cases values with
    | nil => cases hvalues
    | cons value others =>
      rw [List.map_cons, List.map_cons, List.cons.injEq] at hvalues
      rw [List.forall_mem_cons] at hpairs hrecognizes
      have hfirst : decode place (ofJson pair.1) = .ok value :=
        hrecognizes.1 pair.1 (hvalues.1 ▸ hpairs.1.1) place hpairs.1.2
      rw [List.map_cons, ofItems, Decoder.items, hfirst, ok_bind,
        ih hpairs.2 hvalues.2 hrecognizes.2]
      rfl

/-- A list is recognized if its items are. -/
theorem list {decode : Decoder α} {encode : α → Json} {values : List α}
    (hrecognizes : ∀ value ∈ values, decode.Recognizes (encode value) value) :
    (list decode).Recognizes (.array (values.map encode)) values := by
  intro shown hshown place hfits
  obtain ⟨pairs, rfl, hvalues, hpairs⟩ := hshown.exists_array
  cases hfits with
  | @array _ inner _ henter hparts =>
    have hitems : Decoder.items decode inner (ofItems (pairs.map Prod.fst)) = .ok values :=
      items (fun pair hpair => ⟨hpairs pair hpair, hparts _ (List.mem_map_of_mem hpair)⟩) hvalues
        hrecognizes
    rw [ofJson, Decoder.list, henter, ok_bind, hitems]
    rfl

end Recognizes

end Decoder

/-! ## Records -/

namespace RecordForm

variable {α β : Type}

/-- A form makes a record of the members of an object, whichever order they are in. -/
def Recognizes (form : RecordForm α) (members : List (String × Json)) (value : α) : Prop :=
  ∀ shown : Json, shown.Reorders (.ofMembers members) → form.Reads shown value

namespace Recognizes

variable {members : List (String × Json)} {name : String} {part : Json}

theorem seq {function : RecordForm (α → β)} {argument : RecordForm α} {apply : α → β} {value : α}
    (hfunction : function.Recognizes members apply)
    (hargument : argument.Recognizes members value) :
    (function <*> argument).Recognizes members (apply value) :=
  fun shown hshown => (hfunction shown hshown).seq (hargument shown hshown)

theorem map {form : RecordForm α} {value : α} (convert : α → β)
    (hform : form.Recognizes members value) :
    (convert <$> form).Recognizes members (convert value) :=
  fun shown hshown => (hform shown hshown).map convert

/-- What an object shows under a name is what it was made of. -/
theorem exists_member {shown : Json} (hshown : shown.Reorders (.ofMembers members))
    (hmember : (Json.ofMembers members).member? name = some part) :
    ∃ found, shown.member? name = some found ∧ found.Reorders part := by
  rw [Json.ofMembers_eq] at hshown hmember
  have hdistinct := (SortedMap.ofList members).keys_distinct
  obtain ⟨order, rfl, hnames, hparts⟩ := hshown.exists_object
  have horder := List.pairwise_map.1 (hnames.nodup_iff.2 (List.pairwise_map.2 hdistinct))
  have hname : name ∈ order.map Prod.fst :=
    hnames.mem_iff.2 (List.mem_map_of_mem (SortedMap.mem_of_entryValue?_eq_some hmember))
  obtain ⟨entry, hentry, rfl⟩ := List.mem_map.1 hname
  obtain ⟨known, hknown, hshows⟩ := hparts entry hentry
  have hsame : some known = some part :=
    (SortedMap.entryValue?_eq_some_of_mem hdistinct hknown).symm.trans hmember
  refine ⟨entry.2, SortedMap.entryValue?_eq_some_of_mem horder hentry, ?_⟩
  rw [← Option.some.inj hsame]
  exact hshows

theorem field {decode : Decoder α} {value : α}
    (hmember : (Json.ofMembers members).member? name = some part)
    (hrecognizes : decode.Recognizes part value) :
    (field name decode).Recognizes members value := by
  intro shown hshown
  obtain ⟨found, hfound, hpart⟩ := exists_member hshown hmember
  exact .field hfound (hrecognizes found hpart)

theorem nullable {decode : Decoder α} {value? : Option α} {absence : FieldAbsence}
    (hmember : (Json.ofMembers members).member? name = some part)
    (hrecognizes : (Decoder.option decode).Recognizes part value?) :
    (nullable absence name decode).Recognizes members value? := by
  intro shown hshown
  obtain ⟨found, hfound, hpart⟩ := exists_member hshown hmember
  exact .nullable hfound (hrecognizes found hpart)

/-- A record is recognized in an object that has its fields and no others. -/
theorem decode {form : RecordForm α} {value : α} (recordName : String)
    (hknown : members.map Prod.fst ⊆ form.fields.map FieldRule.name)
    (hform : form.Recognizes members value) :
    (decode recordName form).Recognizes (.ofMembers members) value := by
  intro shown hshown
  have hreads := hform shown hshown
  rw [Json.ofMembers_eq] at hshown
  obtain ⟨order, rfl, hnames, _⟩ := hshown.exists_object
  apply hreads.decode_object
  · exact hnames.nodup_iff.2 (List.pairwise_map.2 (SortedMap.ofList members).keys_distinct)
  · intro name hname
    obtain ⟨member, hmem, rfl⟩ := List.mem_map.1 (hnames.mem_iff.1 hname)
    exact hknown (List.mem_map_of_mem (SortedMap.mem_of_mem_ofList hmem))

end Recognizes

end RecordForm

end Stockroom
