import Stockroom.Json.Value
import Stockroom.Proofs.SortedMap

/-!
# Canonical JSON values

A value is canonical when the members of all its objects stand in ascending
order.  An object that is made of its members is, and shows each of them under
its name.
-/

namespace Stockroom.Json

/-- The members of all objects in a value stand in ascending order. -/
inductive IsCanonical : Json → Prop
  | null : IsCanonical null
  | bool (value : Bool) : IsCanonical (bool value)
  | number (value : JsonNumber) : IsCanonical (number value)
  | string (value : String) : IsCanonical (string value)
  | array {items : List Json} (hitems : ∀ item ∈ items, IsCanonical item) :
    IsCanonical (array items)
  | object (members : SortedMap String Json)
    (hmembers : ∀ member ∈ members.entries, IsCanonical member.2) :
    IsCanonical (object members.entries)

theorem ofMembers_eq (members : List (String × Json)) :
    ofMembers members = object (SortedMap.ofList members).entries := by
  rw [ofMembers, SortedMap.entries_ofList]

/-- What is found under a name is what was given under it. -/
theorem member?_ofMembers {members : List (String × Json)}
    (hdistinct : (members.map Prod.fst).Nodup) (name : String) :
    (ofMembers members).member? name = SortedMap.entryValue? name members := by
  rw [ofMembers_eq]
  exact SortedMap.find?_ofList hdistinct name

/-- An object of canonical members is canonical. -/
theorem isCanonical_ofMembers {members : List (String × Json)}
    (hmembers : ∀ member ∈ members, member.2.IsCanonical) : (ofMembers members).IsCanonical := by
  rw [ofMembers_eq]
  apply IsCanonical.object
  intro member hmem
  exact hmembers member (SortedMap.mem_of_mem_ofList hmem)

theorem ofMembers_entries (members : SortedMap String Json) :
    ofMembers members.entries = object members.entries := by
  rw [ofMembers_eq, SortedMap.ofList_entries]

end Stockroom.Json
