import Stockroom.Json.Document
import Stockroom.Proofs.Json.Canonical
import Stockroom.Proofs.Json.Reading

/-!
# What decoders yield

A decoder yields only values of which it has made sure, whatever source it is
given.  A record is made of what the decoders of its fields have yielded, and
is not made at all where a field is missing that has to be there.
-/

namespace Stockroom

open JsonSource (ofJson ofItems ofMembers)

namespace Decoder

variable {α β : Type}

/-- All values that a decoder yields have a property. -/
def Yields (decode : Decoder α) (holds : α → Prop) : Prop :=
  ∀ place source value, decode place source = .ok value → holds value

theorem ofFlaw_eq_ok_iff {result : Except JsonFlaw α} {value : α} :
    ofFlaw result = .ok value ↔ result = .ok value :=
  mapError_eq_ok_iff

theorem mismatch_ne_ok {expected : String} {source : JsonSource} {value : α} :
    mismatch expected source ≠ .ok value := by
  intro hok
  obtain ⟨_, _, hthrown⟩ := bind_eq_ok_iff.1 hok
  cases hthrown

/-- A value that may be missing was read from something else than null. -/
theorem of_option_eq_some {decode : Decoder α} {place : JsonPlace} {source : JsonSource} {value : α}
    (hok : option decode place source = .ok (some value)) :
    source ≠ .null ∧ decode place source = .ok value := by
  unfold Decoder.option at hok
  split at hok
  · cases hok
  · rename_i hother
    cases hread : decode place source with
    | error error =>
      rw [hread] at hok
      cases hok
    | ok read =>
      rw [hread] at hok
      cases hok
      exact ⟨hother, rfl⟩

/-- What is read of an array holds what is read of its items. -/
theorem of_json_array {place : JsonPlace} {sources : List JsonSource} {flaw : Option JsonFlaw}
    {value : Json} (hok : Decoder.json place (.array sources flaw) = .ok value) :
    ∃ inner items, jsonItems inner sources = .ok items ∧ value = .array items := by
  rw [Decoder.json] at hok
  obtain ⟨inner, _, hrest⟩ := bind_eq_ok_iff.1 hok
  obtain ⟨items, hitems, hrest⟩ := bind_eq_ok_iff.1 hrest
  obtain ⟨_, _, hmade⟩ := bind_eq_ok_iff.1 hrest
  exact ⟨inner, items, hitems, (Except.ok.inj hmade).symm⟩

/-- What is read of an object is made of what is read of its members. -/
theorem of_json_object {place : JsonPlace}
    {sources : List (Except JsonFlaw String × JsonSource)} {flaw : Option JsonFlaw}
    {value : Json} (hok : Decoder.json place (.object sources flaw) = .ok value) :
    ∃ inner members, jsonMembers inner sources = .ok members ∧ value = .ofMembers members := by
  rw [Decoder.json] at hok
  obtain ⟨inner, _, hrest⟩ := bind_eq_ok_iff.1 hok
  obtain ⟨members, hmembers, hrest⟩ := bind_eq_ok_iff.1 hrest
  obtain ⟨_, _, hmade⟩ := bind_eq_ok_iff.1 hrest
  exact ⟨inner, members, hmembers, (Except.ok.inj hmade).symm⟩

namespace Yields

theorem anything (decode : Decoder α) : decode.Yields fun _ => True :=
  fun _ _ _ _ => trivial

theorem mono {decode : Decoder α} {holds weaker : α → Prop} (hyields : decode.Yields holds)
    (hweaker : ∀ value, holds value → weaker value) : decode.Yields weaker :=
  fun place source value hok => hweaker value (hyields place source value hok)

theorem integer (expected : String) (least greatest : Int) :
    (integer expected least greatest).Yields fun value => least ≤ value ∧ value ≤ greatest := by
  intro place source value hok
  unfold Decoder.integer at hok
  split at hok
  · split at hok
    · cases hok
      assumption
    · cases hok
  · exact absurd hok mismatch_ne_ok

theorem natural (expected : String) (greatest : Int) :
    (natural expected greatest).Yields fun value => (value : Int) ≤ greatest := by
  intro place source value hok
  rw [Decoder.natural] at hok
  cases hread : Decoder.integer expected 0 greatest place source with
  | error error =>
    rw [hread] at hok
    cases hok
  | ok found =>
    rw [hread] at hok
    cases hok
    have hbounds := integer expected 0 greatest place source found hread
    omega

theorem refine {decode : Decoder α} {convert : α → Except String β} {holds : β → Prop}
    (hconvert : ∀ value result, convert value = .ok result → holds result) :
    (refine decode convert).Yields holds := by
  intro place source result hok
  obtain ⟨value, _, hconverted⟩ := bind_eq_ok_iff.1 hok
  exact hconvert value result (mapError_eq_ok_iff.1 hconverted)

theorem option {decode : Decoder α} {holds : α → Prop} (hyields : decode.Yields holds) :
    (option decode).Yields fun value? => ∀ value ∈ value?, holds value := by
  rintro place source _ hok value ⟨⟩
  exact hyields place source value (of_option_eq_some hok).2

theorem items {decode : Decoder α} {holds : α → Prop} (hyields : decode.Yields holds)
    {place : JsonPlace} {sources : List JsonSource} {values : List α}
    (hok : items decode place sources = .ok values) : ∀ value ∈ values, holds value := by
  induction sources generalizing values with
  | nil =>
    cases hok
    exact List.forall_mem_nil _
  | cons first rest ih =>
    obtain ⟨value, hvalue, hothers⟩ := bind_eq_ok_iff.1 hok
    obtain ⟨others, hrest, hvalues⟩ := bind_eq_ok_iff.1 hothers
    cases hvalues
    exact List.forall_mem_cons.2 ⟨hyields place first value hvalue, ih hrest⟩

theorem list {decode : Decoder α} {holds : α → Prop} (hyields : decode.Yields holds) :
    (list decode).Yields fun values => ∀ value ∈ values, holds value := by
  intro place source values hok
  unfold Decoder.list at hok
  split at hok
  · obtain ⟨inner, _, hrest⟩ := bind_eq_ok_iff.1 hok
    obtain ⟨found, hfound, hrest⟩ := bind_eq_ok_iff.1 hrest
    obtain ⟨_, _, hsame⟩ := bind_eq_ok_iff.1 hrest
    cases hsame
    exact items hyields hfound
  · exact absurd hok mismatch_ne_ok

theorem ofWholeText {decode : Decoder α} {holds : α → Prop} (hyields : decode.Yields holds)
    {text : String} {value : α} (hok : ofWholeText decode text = .ok value) : holds value := by
  rw [Decoder.ofWholeText] at hok
  generalize Json.Reader.read text = whole at hok
  obtain ⟨source, flaw⟩ := whole
  obtain ⟨read, hread, hwhole⟩ := bind_eq_ok_iff.1 hok
  cases flaw with
  | some flaw => cases hwhole
  | none =>
    cases hwhole
    exact hyields .ofText source value hread

mutual

/-- A value that is read from a source is canonical. -/
theorem json : Decoder.json.Yields Json.IsCanonical
  | _, .null, _, hok => by
    cases hok
    exact .null
  | _, .bool value, _, hok => by
    cases hok
    exact .bool value
  | _, .number (some value), _, hok => by
    cases hok
    exact .number value
  | _, .string text, value, hok => by
    rw [Decoder.json, ofFlaw_eq_ok_iff] at hok
    cases text with
    | error flaw => cases hok
    | ok text =>
      cases hok
      exact .string text
  | _, .array sources flaw, _, hok => by
    obtain ⟨inner, items, hitems, rfl⟩ := of_json_array hok
    exact .array (jsonItems inner sources items hitems)
  | _, .object sources flaw, _, hok => by
    obtain ⟨inner, members, hmembers, rfl⟩ := of_json_object hok
    exact Json.isCanonical_ofMembers (jsonMembers inner sources members hmembers)

theorem jsonItems (place : JsonPlace) : ∀ (sources : List JsonSource) (values : List Json),
    Decoder.jsonItems place sources = .ok values → ∀ value ∈ values, value.IsCanonical
  | [], values, hok => by
    cases hok
    exact List.forall_mem_nil _
  | first :: rest, values, hok => by
    rw [Decoder.jsonItems] at hok
    obtain ⟨value, hvalue, hothers⟩ := bind_eq_ok_iff.1 hok
    obtain ⟨others, hrest, hvalues⟩ := bind_eq_ok_iff.1 hothers
    cases hvalues
    exact List.forall_mem_cons.2 ⟨json place first value hvalue,
      jsonItems place rest others hrest⟩

theorem jsonMembers (place : JsonPlace) :
    ∀ (sources : List (Except JsonFlaw String × JsonSource)) (members : List (String × Json)),
    Decoder.jsonMembers place sources = .ok members →
      ∀ member ∈ members, member.2.IsCanonical
  | [], members, hok => by
    cases hok
    exact List.forall_mem_nil _
  | (name, source) :: rest, members, hok => by
    rw [Decoder.jsonMembers] at hok
    obtain ⟨_, _, hothers⟩ := bind_eq_ok_iff.1 hok
    obtain ⟨value, hvalue, hothers⟩ := bind_eq_ok_iff.1 hothers
    obtain ⟨others, hrest, hmembers⟩ := bind_eq_ok_iff.1 hothers
    cases hmembers
    exact List.forall_mem_cons.2 ⟨json place source value hvalue,
      jsonMembers place rest others hrest⟩

end

end Yields

end Decoder

namespace RecordForm

variable {α β : Type}

/-- All records that a form makes have a property. -/
structure Yields (form : RecordForm α) (holds : α → Prop) : Prop where
  builds : ∀ place sources value, form.build place sources = .ok value → holds value

namespace Yields

theorem anything (form : RecordForm α) : form.Yields fun _ => True :=
  ⟨fun _ _ _ _ => trivial⟩

/-- A record has a property if the function that makes it gives the property to every argument
that is yielded. -/
theorem seq {function : RecordForm (α → β)} {argument : RecordForm α} {holds : α → Prop}
    {result : β → Prop} (hargument : argument.Yields holds)
    (hfunction : function.Yields fun apply => ∀ value, holds value → result (apply value)) :
    (function <*> argument).Yields result where
  builds place sources made hok := by
    obtain ⟨apply, happly, hrest⟩ := bind_eq_ok_iff.1 hok
    obtain ⟨value, hvalue, hmade⟩ := bind_eq_ok_iff.1 hrest
    cases hmade
    exact hfunction.builds place sources apply happly value
      (hargument.builds place sources value hvalue)

theorem map {form : RecordForm α} {convert : α → β} {holds : α → Prop} {result : β → Prop}
    (hform : form.Yields holds) (hconvert : ∀ value, holds value → result (convert value)) :
    (convert <$> form).Yields result := by
  have hpure : RecordForm.Yields (pure convert) fun apply =>
      ∀ value, holds value → result (apply value) := by
    constructor
    rintro place sources _ ⟨⟩
    exact hconvert
  exact seq hform hpure

theorem field {decode : Decoder α} {holds : α → Prop} (name : String)
    (hyields : decode.Yields holds) : (field name decode).Yields holds where
  builds place sources value hok := by
    rw [RecordForm.field] at hok
    cases hsource : sources name with
    | none =>
      simp only [hsource] at hok
      cases hok
    | some source =>
      simp only [hsource] at hok
      exact hyields place source value hok

/-- Where a field that may be missing is, it is read as it is, and else there is none. -/
theorem nullable {decode : Decoder α} {holds : Option α → Prop} (absence : FieldAbsence)
    (name : String) (hyields : (Decoder.option decode).Yields holds) (hnone : holds none) :
    (nullable absence name decode).Yields holds where
  builds place sources value? hok := by
    rw [RecordForm.nullable] at hok
    cases hsource : sources name with
    | none =>
      simp only [hsource] at hok
      cases hok
      exact hnone
    | some source =>
      simp only [hsource] at hok
      exact hyields place source value? hok

/-- Whether it is read from an object or from an array, a record is made by its form. -/
theorem decode {form : RecordForm α} {holds : α → Prop} (name : String)
    (hform : form.Yields holds) : (decode name form).Yields holds := by
  intro place source value hok
  unfold RecordForm.decode at hok
  split at hok
  · obtain ⟨inner, _, hrest⟩ := bind_eq_ok_iff.1 hok
    obtain ⟨known, _, hrest⟩ := bind_eq_ok_iff.1 hrest
    obtain ⟨_, _, hrest⟩ := bind_eq_ok_iff.1 hrest
    obtain ⟨_, _, hbuilt⟩ := bind_eq_ok_iff.1 hrest
    exact hform.builds inner _ value hbuilt
  · obtain ⟨inner, _, hrest⟩ := bind_eq_ok_iff.1 hok
    obtain ⟨aligned, _, hrest⟩ := bind_eq_ok_iff.1 hrest
    obtain ⟨_, _, hbuilt⟩ := bind_eq_ok_iff.1 hrest
    exact hform.builds inner _ value hbuilt
  · exact absurd hok Decoder.mismatch_ne_ok

end Yields

/-! ## Missing fields -/

/-- What is kept of the members of an object stands among them. -/
theorem mem_of_gather {fields : List FieldRule} {place : JsonPlace}
    {known found : List (String × JsonSource)}
    {members : List (Except JsonFlaw String × JsonSource)}
    (hok : gather fields place known members = .ok found) {name : String}
    (hfound : (found.lookup name).isSome = true) :
    (known.lookup name).isSome = true ∨ ∃ member ∈ members, member.1 = .ok name := by
  induction members generalizing known with
  | nil =>
    cases hok
    exact .inl hfound
  | cons member rest ih =>
    obtain ⟨memberName, source⟩ := member
    rw [gather] at hok
    obtain ⟨read, hread, hrest⟩ := bind_eq_ok_iff.1 hok
    rw [Decoder.ofFlaw_eq_ok_iff] at hread
    split at hrest
    · obtain ⟨_, _, hrest⟩ := bind_eq_ok_iff.1 hrest
      rcases ih hrest with hknown | ⟨later, hmem, hname⟩
      · exact .inl hknown
      · exact .inr ⟨later, List.mem_cons_of_mem _ hmem, hname⟩
    · split at hrest
      · cases hrest
      · obtain ⟨_, _, hrest⟩ := bind_eq_ok_iff.1 hrest
        rcases ih hrest with hknown | ⟨later, hmem, hname⟩
        · rw [List.lookup_append, Option.isSome_or, Bool.or_eq_true] at hknown
          rcases hknown with hknown | hadded
          · exact .inl hknown
          · by_cases hname : name = read
            · exact .inr ⟨(memberName, source), List.mem_cons_self, hname ▸ hread⟩
            · rw [List.lookup_cons, beq_false_of_ne hname] at hadded
              cases hadded
        · exact .inr ⟨later, List.mem_cons_of_mem _ hmem, hname⟩

theorem isSome_of_requireFields {fields : List FieldRule} {known : List (String × JsonSource)}
    (hok : requireFields known fields = .ok ()) {rule : FieldRule} (hrule : rule ∈ fields)
    (hrefused : rule.absence = .refused) : (known.lookup rule.name).isSome = true := by
  induction fields with
  | nil => cases hrule
  | cons first rest ih =>
    rw [requireFields] at hok
    split at hok
    · cases hok
    · rename_i hfirst
      rcases List.mem_cons.1 hrule with rfl | hlater
      · cases hlookup : known.lookup rule.name with
        | none => exact absurd ⟨hrefused, by rw [hlookup]; rfl⟩ hfirst
        | some source => rfl
      · exact ih hok hlater

theorem entryValue?_of_mem_ofMembers {members : List (String × Json)} {name : String}
    {member : Except JsonFlaw String × JsonSource} (hmem : member ∈ ofMembers members)
    (hname : member.1 = .ok name) : SortedMap.entryValue? name members ≠ none := by
  induction members with
  | nil => cases hmem
  | cons first rest ih =>
    rw [SortedMap.entryValue?]
    split
    · exact Option.some_ne_none _
    · rename_i hne
      rcases List.mem_cons.1 hmem with rfl | hlater
      · exact absurd (Except.ok.inj hname) hne
      · exact ih hlater

/-- An object without a field that has to be there is no record. -/
theorem decode_error_of_missing {form : RecordForm α} {rule : FieldRule}
    (hrule : rule ∈ form.fields) (hrefused : rule.absence = .refused)
    {members : List (String × Json)}
    (hmissing : SortedMap.entryValue? rule.name members = none) (name : String)
    (place : JsonPlace) :
    ∃ error, decode name form place (ofJson (.object members)) = .error error := by
  cases hdecoded : decode name form place (ofJson (.object members)) with
  | error error => exact ⟨error, rfl⟩
  | ok value =>
    rw [ofJson, decode] at hdecoded
    obtain ⟨inner, _, hrest⟩ := bind_eq_ok_iff.1 hdecoded
    obtain ⟨known, hknown, hrest⟩ := bind_eq_ok_iff.1 hrest
    obtain ⟨_, _, hrest⟩ := bind_eq_ok_iff.1 hrest
    obtain ⟨_, hrequired, _⟩ := bind_eq_ok_iff.1 hrest
    have hfound := isSome_of_requireFields hrequired hrule hrefused
    rcases mem_of_gather hknown hfound with hnothing | ⟨member, hmem, hname⟩
    · cases hnothing
    · exact absurd hmissing (entryValue?_of_mem_ofMembers hmem hname)

/-- An array that does not begin with the first field, where that has to be there, is no record. -/
theorem decode_error_of_array {form : RecordForm α} {rule : FieldRule} {rules : List FieldRule}
    (hfields : form.fields = rule :: rules) (hrefused : rule.absence = .refused)
    {items : List Json}
    (hfirst : ∀ first ∈ items.head?, ∀ place, ∃ error,
      rule.check place (ofJson first) = .error error) (name : String) (place : JsonPlace) :
    ∃ error, decode name form place (ofJson (.array items)) = .error error := by
  rw [ofJson, decode]
  cases place.enter with
  | error error => exact ⟨error, rfl⟩
  | ok inner =>
    rw [ok_bind, hfields]
    cases items with
    | nil =>
      have hnot : rule.absence ≠ .nullAnywhere := by
        rw [hrefused]
        decide
      simp only [ofItems, align, JsonSource.finish, Decoder.ofFlaw, mapError_ok, ok_bind, hnot,
        if_false]
      exact ⟨_, rfl⟩
    | cons first rest =>
      obtain ⟨error, herror⟩ := hfirst first rfl inner
      simp only [ofItems, align, herror, error_bind]
      exact ⟨error, rfl⟩

end RecordForm

end Stockroom
