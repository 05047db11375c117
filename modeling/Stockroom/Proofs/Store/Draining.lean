import Stockroom.Proofs.Store.Expiring
import Stockroom.Proofs.Store.Totals

/-!
# Expiring one reservation after another

What a chain of expiries leaves behind does not depend on its order: each of
the reservations is expired, every record has gained what they held of its
product, and nothing else has changed.
-/

namespace Stockroom

/-- A record that has so many of its reserved units back, as of a point in time if there are any. -/
structure StockRecord.GivenBack (now : Instant) (units : Nat) (before after : StockRecord) :
    Prop where
  available : after.available.value = before.available.value + units
  reserved : after.reserved.value + units = before.reserved.value
  kept : after = { before with
    available := after.available, reserved := after.reserved,
    updatedAt := if units = 0 then before.updatedAt else now }

namespace StockRecord.GivenBack

variable {now : Instant} {first second third record updated : StockRecord} {units more : Nat}

theorem refl (now : Instant) (record : StockRecord) : GivenBack now 0 record record :=
  ⟨rfl, rfl, rfl⟩

theorem trans (hfirst : GivenBack now units first second)
    (hsecond : GivenBack now more second third) : GivenBack now (units + more) first third := by
  refine ⟨?_, ?_, ?_⟩
  · rw [hsecond.available, hfirst.available, Nat.add_assoc]
  · rw [Nat.add_comm units, ← Nat.add_assoc, hsecond.reserved, hfirst.reserved]
  · refine hsecond.kept.trans ?_
    rw [hfirst.kept]
    by_cases hunits : units = 0 <;> by_cases hmore : more = 0 <;> simp [hunits, hmore]

theorem of_release {quantity : Quantity}
    (hrelease : record.release quantity now = .ok updated) :
    GivenBack now quantity.value record updated := by
  obtain ⟨hpositive, _, available, havailable, reserved, hreserved, rfl⟩ :=
    release_eq_ok_iff.1 hrelease
  refine ⟨havailable, hreserved, ?_⟩
  rw [if_neg (Nat.pos_iff_ne_zero.1 hpositive)]

end StockRecord.GivenBack

namespace MemoryStore

/-- Every record has so many units of its product back, and no record has come or gone. -/
def GivesBack (now : Instant) (units : ProductId → Nat) (before after : MemoryStore) : Prop :=
  ∀ product, Option.Rel (StockRecord.GivenBack now (units product))
    (before.inventory.find? product) (after.inventory.find? product)

/-- No record has more units than a quantity can have. -/
def Bounded (store : MemoryStore) : Prop :=
  ∀ product record, store.inventory.find? product = some record →
    record.available.value + record.reserved.value ≤ Quantity.maximum

variable {now : Instant} {store middle after : MemoryStore} {reservation : Reservation}
  {rest : List Reservation}

theorem GivesBack.refl (now : Instant) (store : MemoryStore) :
    GivesBack now (fun _ => 0) store store := by
  intro product
  cases store.inventory.find? product with
  | none => exact .none
  | some record => exact .some (.refl now record)

theorem GivesBack.trans {units more : ProductId → Nat} (hfirst : GivesBack now units store middle)
    (hsecond : GivesBack now more middle after) :
    GivesBack now (fun product => units product + more product) store after := by
  intro product
  have hone := hfirst product
  have hother := hsecond product
  generalize store.inventory.find? product = first at hone ⊢
  generalize middle.inventory.find? product = second at hone hother
  generalize after.inventory.find? product = third at hother ⊢
  cases hone with
  | none =>
    cases hother
    exact .none
  | some hone =>
    cases hother with
    | some hother => exact .some (hone.trans hother)

/-- A reservation that is released or expired gives back what it held. -/
theorem Settles.givesBack {resolution : Resolution} (hdistinct : reservation.products.Nodup)
    (hreturned : resolution ≠ .confirm)
    (hsettles : store.Settles reservation resolution now after) :
    GivesBack now reservation.quantityOf store after := by
  intro product
  by_cases hmem : product ∈ reservation.products
  · obtain ⟨line, hline, rfl⟩ := List.mem_map.1 hmem
    obtain ⟨record, updated, hrecord, hedit, hupdated⟩ := hsettles.edited.changed line hline
    have hrelease : record.release line.quantity now = .ok updated := by
      cases resolution with
      | confirm => exact absurd rfl hreturned
      | release | expire => exact mapError_eq_ok_iff.1 hedit
    rw [hrecord, hupdated, Reservation.quantityOf_line hdistinct hline]
    exact .some (.of_release hrelease)
  · rw [hsettles.edited.kept product hmem, Reservation.quantityOf_of_not_mem hmem]
    exact GivesBack.refl now store product

theorem Expires.givesBack (hbalanced : store.Balanced)
    (hfound : store.reservations.find? reservation.id = some reservation)
    (hexpires : store.Expires now reservation after) :
    GivesBack now reservation.quantityOf store after :=
  hexpires.settles.givesBack (hbalanced.consolidated _ _ hfound).distinct (by decide)

/-- No record has more or fewer units available, and no record has come or gone. -/
def KeepsAvailable (before after : MemoryStore) : Prop :=
  ∀ product, (after.inventory.find? product).map StockRecord.available =
    (before.inventory.find? product).map StockRecord.available

/-- A reservation that is confirmed gives nothing back. -/
theorem Settles.keepsAvailable (hsettles : store.Settles reservation .confirm now after) :
    KeepsAvailable store after := by
  intro product
  by_cases hmem : product ∈ reservation.products
  · obtain ⟨line, hline, rfl⟩ := List.mem_map.1 hmem
    obtain ⟨record, updated, hrecord, hedit, hupdated⟩ := hsettles.edited.changed line hline
    obtain ⟨_, _, _, _, rfl⟩ := StockRecord.confirm_eq_ok_iff.1 (mapError_eq_ok_iff.1 hedit)
    rw [hrecord, hupdated]
    rfl
  · rw [hsettles.edited.kept product hmem]

/-- What a resolution makes available again: nothing if the reservation is confirmed, and otherwise
exactly what it held. -/
def Returns (resolution : Resolution) (now : Instant) (reservation : Reservation)
    (before after : MemoryStore) : Prop :=
  match resolution with
  | .confirm => KeepsAvailable before after
  | .release | .expire => GivesBack now reservation.quantityOf before after

theorem Settles.returns {resolution : Resolution} (hdistinct : reservation.products.Nodup)
    (hsettles : store.Settles reservation resolution now after) :
    Returns resolution now reservation store after := by
  cases resolution with
  | confirm => exact hsettles.keepsAvailable
  | release | expire => exact hsettles.givesBack hdistinct (by decide)

/-- Where no record has too many units, there is room for all that is held. -/
theorem Bounded.hasRoom (hbounded : store.Bounded) (hbalanced : store.Balanced)
    (hoverdue : store.Overdue now reservation) : store.HasRoom reservation := by
  intro line hline record hrecord
  obtain ⟨found, hfound, hheld⟩ := hbalanced.held_line hoverdue.found hoverdue.pending hline
  obtain rfl := Option.some.inj (hfound.symm.trans hrecord)
  calc found.available.value + line.quantity.value
    _ ≤ found.available.value + found.reserved.value := Nat.add_le_add_left hheld _
    _ ≤ Quantity.maximum := hbounded line.product found hfound

theorem Bounded.of_expires (hbounded : store.Bounded) (hbalanced : store.Balanced)
    (hexpires : store.Expires now reservation after) : after.Bounded := by
  intro product record hrecord
  have hmoves := Moves.giveBack hbalanced product reservation.id .expire (by decide) now
  rw [hexpires.answer] at hmoves
  obtain ⟨old, hold, htotal⟩ := hmoves record hrecord
  have hbound := hbounded product old hold
  simp only [StockRecord.total] at htotal
  omega

/-- Reservations expire one after another. -/
inductive ExpiresAll (now : Instant) : MemoryStore → List Reservation → MemoryStore → Prop
  | nil (store : MemoryStore) : ExpiresAll now store [] store
  | cons {store middle after : MemoryStore} {reservation : Reservation} {rest : List Reservation}
    (hfirst : store.Expires now reservation middle) (hrest : ExpiresAll now middle rest after) :
    ExpiresAll now store (reservation :: rest) after

namespace ExpiresAll

variable {first second reservations : List Reservation}

theorem append (hfirst : ExpiresAll now store first middle)
    (hsecond : ExpiresAll now middle second after) :
    ExpiresAll now store (first ++ second) after := by
  induction hfirst with
  | nil => exact hsecond
  | cons hone _ ih => exact .cons hone (ih hsecond)

theorem balanced (hexpires : ExpiresAll now store reservations after)
    (hbalanced : store.Balanced) : after.Balanced := by
  induction hexpires with
  | nil => exact hbalanced
  | cons hone _ ih => exact ih (hbalanced.of_expires hone)

theorem bounded (hexpires : ExpiresAll now store reservations after)
    (hbalanced : store.Balanced) (hbounded : store.Bounded) : after.Bounded := by
  induction hexpires with
  | nil => exact hbounded
  | cons hone _ ih => exact ih (hbalanced.of_expires hone) (hbounded.of_expires hbalanced hone)

theorem processed (hexpires : ExpiresAll now store reservations after) :
    after.processed = store.processed := by
  induction hexpires with
  | nil => rfl
  | cons hone _ ih => exact ih.trans hone.settles.processed

/-- A reservation that is not among those that expire is left as it is. -/
theorem find?_other (hexpires : ExpiresAll now store reservations after) {id : Uuid}
    (habsent : id ∉ reservations.map Reservation.id) :
    after.reservations.find? id = store.reservations.find? id := by
  induction hexpires with
  | nil => rfl
  | @cons store middle after reservation rest hone _ ih =>
    obtain ⟨hne, hrest⟩ := not_or.1 (habsent ∘ List.mem_cons.2)
    rw [ih hrest, hone.settles.reservations, SortedMap.find?_insert, if_neg (Ne.symm hne)]

/-- Each of the reservations is found expired. -/
theorem find?_expired (hexpires : ExpiresAll now store reservations after)
    (hdistinct : (reservations.map Reservation.id).Nodup) (hmem : reservation ∈ reservations) :
    after.reservations.find? reservation.id = some (reservation.resolved .expire now) := by
  induction hexpires with
  | nil => cases hmem
  | @cons store middle after first rest hone hrest ih =>
    obtain ⟨hid, hdistinct⟩ := List.nodup_cons.1 hdistinct
    rcases List.mem_cons.1 hmem with rfl | hmem
    · rw [hrest.find?_other hid, hone.settles.reservations, SortedMap.find?_insert, if_pos rfl]
    · exact ih hdistinct hmem

/-- Every record has back what the reservations held of its product. -/
theorem givesBack (hexpires : ExpiresAll now store reservations after)
    (hbalanced : store.Balanced) (hdistinct : (reservations.map Reservation.id).Nodup)
    (hfound : ∀ reservation ∈ reservations,
      store.reservations.find? reservation.id = some reservation) :
    GivesBack now (fun product => (reservations.map (·.quantityOf product)).sum) store after := by
  induction hexpires with
  | nil store => exact .refl now store
  | @cons store middle after first rest hone hrest ih =>
    obtain ⟨hid, hdistinct⟩ := List.nodup_cons.1 hdistinct
    obtain ⟨hfirst, hothers⟩ := List.forall_mem_cons.1 hfound
    refine (hone.givesBack hbalanced hfirst).trans (ih (hbalanced.of_expires hone) hdistinct ?_)
    intro other hother
    have hne : first.id ≠ other.id := fun hsame => hid (hsame ▸ List.mem_map_of_mem hother)
    rw [hone.settles.reservations, SortedMap.find?_insert, if_neg hne]
    exact hothers other hother

/-- What is overdue afterwards was so before, and is not among those that expired. -/
theorem overdue_iff (hexpires : ExpiresAll now store reservations after)
    (hdistinct : (reservations.map Reservation.id).Nodup)
    (hoverdue : ∀ reservation ∈ reservations, store.Overdue now reservation) :
    after.Overdue now reservation ↔
      store.Overdue now reservation ∧ reservation ∉ reservations := by
  constructor
  · intro hlast
    have habsent : reservation.id ∉ reservations.map Reservation.id := by
      intro hmem
      obtain ⟨taken, htaken, hid⟩ := List.mem_map.1 hmem
      have hnow := hexpires.find?_expired hdistinct htaken
      rw [hid, hlast.found, Option.some.injEq] at hnow
      have hterminal := taken.isPending_resolved .expire now
      rw [← hnow, hlast.pending] at hterminal
      cases hterminal
    refine ⟨⟨?_, hlast.pending, hlast.expired⟩, fun hmem => habsent (List.mem_map_of_mem hmem)⟩
    rw [← hexpires.find?_other habsent]
    exact hlast.found
  · rintro ⟨hstill, hother⟩
    refine ⟨?_, hstill.pending, hstill.expired⟩
    rw [hexpires.find?_other ?_]
    · exact hstill.found
    · intro hmem
      obtain ⟨taken, htaken, hid⟩ := List.mem_map.1 hmem
      have hfound := (hoverdue taken htaken).found
      rw [hid, hstill.found, Option.some.injEq] at hfound
      exact hother (hfound ▸ htaken)

end ExpiresAll

end MemoryStore

end Stockroom
