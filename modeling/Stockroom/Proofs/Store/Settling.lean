import Stockroom.Proofs.Store.Confirming
import Stockroom.Proofs.Store.Reserving

/-!
# Resolving what was just held

Stock that is held and otherwise untouched can be given back or confirmed.
Giving it back undoes the hold.  Confirming it has the effect of taking the
units out of the available stock directly.  In both cases only the moments of
the last changes tell the records apart.
-/

namespace Stockroom

namespace StockRecord

/-- The record without the moment of its last change. -/
def unstamped (record : StockRecord) : StockRecord :=
  { record with updatedAt := .epoch }

/-- Units leave the available stock of a record, which is otherwise unchanged. -/
def Loses (record : StockRecord) (units : Nat) (updated : StockRecord) : Prop :=
  ∃ available : Quantity, available.value + units = record.available.value ∧
    updated.unstamped = unstamped { record with available := available }

variable {record held : StockRecord} {quantity : Quantity} {now : Instant}

theorem Loses.unstamped_eq {units : Nat} {one other : StockRecord} (hone : record.Loses units one)
    (hother : record.Loses units other) : one.unstamped = other.unstamped := by
  obtain ⟨left, hleft, hone⟩ := hone
  obtain ⟨right, hright, hother⟩ := hother
  have hsame : left = right := Quantity.ext (Nat.add_right_cancel (hleft.trans hright.symm))
  rw [hone, hother, hsame]

theorem exists_decrease (hpositive : 0 < quantity.value)
    (henough : quantity.value ≤ record.available.value) (now : Instant) :
    ∃ updated, record.decrease quantity now = .ok updated ∧ updated.product = record.product ∧
      record.Loses quantity.value updated := by
  obtain ⟨available, hsubtracted⟩ := Quantity.sub_of_le henough
  have havailable := Quantity.sub_eq_ok_iff.1 hsubtracted
  exact ⟨_, decrease_eq_ok_iff.2 ⟨hpositive, henough, available, havailable, rfl⟩, rfl,
    available, havailable, rfl⟩

/-- Reserved units can be released, which undoes that they were reserved. -/
theorem release_of_reserve (hreserved : record.reserve quantity now = .ok held) (later : Instant) :
    ∃ released, held.release quantity later = .ok released ∧
      released.unstamped = record.unstamped := by
  obtain ⟨hpositive, _, reserved, hsum, available, hdifference, rfl⟩ :=
    reserve_eq_ok_iff.1 hreserved
  have hheld : quantity.value ≤ reserved.value := hsum ▸ Nat.le_add_left _ _
  exact ⟨{ record with updatedAt := later }, release_eq_ok_iff.2 ⟨hpositive, hheld,
    record.available, hdifference.symm, record.reserved, hsum.symm, rfl⟩, rfl⟩

/-- Reserved units can be confirmed, and have then left the available stock. -/
theorem confirm_of_reserve (hreserved : record.reserve quantity now = .ok held) (later : Instant) :
    ∃ confirmed, held.confirm quantity later = .ok confirmed ∧
      record.Loses quantity.value confirmed := by
  obtain ⟨hpositive, _, reserved, hsum, available, hdifference, rfl⟩ :=
    reserve_eq_ok_iff.1 hreserved
  have hheld : quantity.value ≤ reserved.value := hsum ▸ Nat.le_add_left _ _
  exact ⟨{ record with available := available, updatedAt := later }, confirm_eq_ok_iff.2
    ⟨hpositive, hheld, record.reserved, hsum.symm, rfl⟩, available, hdifference, rfl⟩

/-- What a resolution makes of a record whose units were just held. -/
def Settled (record : StockRecord) (units : Nat) (settled : StockRecord) : Resolution → Prop
  | .confirm => record.Loses units settled
  | .release | .expire => settled.unstamped = record.unstamped

end StockRecord

theorem WorkingCopy.resolveEdit_of_holdEdit {line : ReservationLine} {record held : StockRecord}
    {now : Instant} (hheld : holdEdit now line record = .ok held) (resolution : Resolution)
    (later : Instant) :
    ∃ settled, resolveEdit resolution later line held = .ok settled ∧
      record.Settled line.quantity.value settled resolution := by
  have hreserved := holdEdit_eq_ok_iff.1 hheld
  simp only [resolveEdit, mapError_eq_ok_iff]
  cases resolution with
  | confirm => exact StockRecord.confirm_of_reserve hreserved later
  | release | expire => exact StockRecord.release_of_reserve hreserved later

namespace MemoryStore

/-- Two stores have the same records, apart from the moments of their last changes. -/
def SameStock (one other : MemoryStore) : Prop :=
  ∀ product, (one.inventory.find? product).map StockRecord.unstamped =
    (other.inventory.find? product).map StockRecord.unstamped

/-- The store after units of some products have left the available stock. -/
structure Loses (before : MemoryStore) (products : List ProductId) (units : ProductId → Nat)
    (after : MemoryStore) : Prop where
  taken : ∀ product ∈ products, ∃ record updated,
    before.inventory.find? product = some record ∧ record.Loses (units product) updated ∧
      after.inventory.find? product = some updated
  kept : ∀ product, product ∉ products →
    after.inventory.find? product = before.inventory.find? product

namespace Loses

variable {before middle after : MemoryStore} {products : List ProductId} {units : ProductId → Nat}

/-- Taking the same units out in another way leads to the same stock. -/
theorem sameStock {others : List ProductId} {other : MemoryStore}
    (hsame : ∀ product, product ∈ others ↔ product ∈ products)
    (hloses : before.Loses products units after) (hother : before.Loses others units other) :
    after.SameStock other := by
  intro product
  by_cases hmem : product ∈ products
  · obtain ⟨record, updated, hfound, htaken, hafter⟩ := hloses.taken product hmem
    obtain ⟨same, left, hsameFound, hleft, hlast⟩ := hother.taken product ((hsame product).2 hmem)
    obtain rfl : same = record := Option.some.inj (hsameFound.symm.trans hfound)
    rw [hafter, hlast]
    exact congrArg some (htaken.unstamped_eq hleft)
  · rw [hloses.kept product hmem, hother.kept product fun hin => hmem ((hsame product).1 hin)]

theorem nil (store : MemoryStore) (units : ProductId → Nat) : store.Loses [] units store :=
  ⟨by simp, fun _ _ => rfl⟩

theorem cons {product : ProductId} (habsent : product ∉ products)
    (hfirst : before.Loses [product] units middle) (hrest : middle.Loses products units after) :
    before.Loses (product :: products) units after := by
  have hother {other : ProductId} (hne : other ≠ product) :
      middle.inventory.find? other = before.inventory.find? other :=
    hfirst.kept other (List.not_mem_cons_of_ne_of_not_mem hne List.not_mem_nil)
  constructor
  · intro one hmem
    rcases List.mem_cons.1 hmem with rfl | hlater
    · rw [hrest.kept one habsent]
      exact hfirst.taken one List.mem_cons_self
    · rw [← hother fun heq => habsent (heq ▸ hlater)]
      exact hrest.taken one hlater
  · intro other hout
    rw [List.mem_cons, not_or] at hout
    rw [hrest.kept other hout.2, hother hout.1]

end Loses

variable {store held : MemoryStore} {reservation : Reservation}

/-- Units of a record can be subtracted if they are available. -/
theorem answer_subtract (hkeyed : store.Keyed) {product : ProductId} {record : StockRecord}
    {quantity : Quantity} (hfound : store.inventory.find? product = some record)
    (hpositive : 0 < quantity.value) (henough : quantity.value ≤ record.available.value)
    {units : ProductId → Nat} (hunits : quantity.value = units product) (now : Instant) :
    ∃ updated after, answer (.adjust product ⟨.subtract, quantity⟩ now) store =
      (.ok updated, after) ∧ store.Loses [product] units after := by
  obtain ⟨updated, hdecreased, hproduct, hloses⟩ :=
    StockRecord.exists_decrease hpositive henough now
  rw [hkeyed.records product record hfound] at hproduct
  refine ⟨updated, { store with inventory := store.inventory.insert product updated }, ?_, ?_, ?_⟩
  · simp only [answer, UnitOfWork.adjust]
    rw [perform_change, hfound]
    simp only [StockRecord.adjust, hdecreased, hproduct]
  · intro other hmem
    obtain rfl := List.mem_singleton.1 hmem
    rw [← hunits]
    exact ⟨record, updated, hfound, hloses, by simp⟩
  · intro other hout
    have hne : product ≠ other := fun heq => hout (heq ▸ List.mem_cons_self)
    rw [SortedMap.find?_insert, if_neg hne]

/-- What was just held can be resolved, the deadline permitting. -/
theorem Holds.answer_resolve (hkeyed : held.Keyed) (hholds : store.Holds reservation held)
    (hnew : reservation.IsNew) {resolution : Resolution} {now : Instant}
    (hpermits : reservation.permits resolution now = true) :
    ∃ after, answer (.resolve reservation.id resolution now) held =
        (.ok ⟨.applied, reservation.resolved resolution now⟩, after) ∧
      held.Settles reservation resolution now after := by
  have hdistinct := hnew.consolidated.distinct
  have hfound : held.reservations.find? reservation.id = some reservation := by
    rw [hholds.reservations, SortedMap.find?_insert, if_pos rfl]
  have hpresent (product : ProductId) (hnamed : product ∈ reservation.products) :
      ∃ record, held.inventory.find? product = some record := by
    obtain ⟨line, hline, rfl⟩ := List.mem_map.1 hnamed
    obtain ⟨_, updated, _, _, hafter⟩ := hholds.edited.changed line hline
    exact ⟨updated, hafter⟩
  obtain ⟨locked, hlocked⟩ := lockAll_lockOrder hpresent
  have hlines (line : ReservationLine) (hline : line ∈ reservation.lines) :
      ∃ record, locked.find? line.product = some record ∧
        ∃ updated, WorkingCopy.resolveEdit resolution now line record = .ok updated := by
    obtain ⟨_, updated, _, hedit, hafter⟩ := hholds.edited.changed line hline
    obtain ⟨settled, hsettled, _⟩ := WorkingCopy.resolveEdit_of_holdEdit hedit resolution now
    exact ⟨updated, (find?_locked_line hlocked hline).trans hafter, settled, hsettled⟩
  obtain ⟨edited, hedited⟩ := WorkingCopy.exists_editLines hdistinct hlines
  rw [answer_resolve_locked hfound hnew.isPending hlocked hpermits, hedited]
  exact ⟨_, rfl, edited_writeAll hkeyed hdistinct (fun _ => Reservation.mem_lockOrder)
    (fun _ _ _ => WorkingCopy.product_of_resolveEdit) hlocked hedited, rfl, rfl⟩

/-- What became of the record of a line that was held and then resolved. -/
theorem Holds.settled {after : MemoryStore} {resolution : Resolution} {now : Instant}
    (hholds : store.Holds reservation held)
    (hsettles : held.Settles reservation resolution now after) :
    ∀ line ∈ reservation.lines, ∃ record updated,
      store.inventory.find? line.product = some record ∧
      record.Settled line.quantity.value updated resolution ∧
      after.inventory.find? line.product = some updated := by
  intro line hline
  obtain ⟨record, between, hfound, hheld, hbetween⟩ := hholds.edited.changed line hline
  obtain ⟨same, updated, hsame, hresolved, hafter⟩ := hsettles.edited.changed line hline
  obtain rfl : same = between := Option.some.inj (hsame.symm.trans hbetween)
  obtain ⟨settled, hedited, hsettled⟩ :=
    WorkingCopy.resolveEdit_of_holdEdit hheld resolution now
  obtain rfl : settled = updated := Except.ok.inj (hedited.symm.trans hresolved)
  exact ⟨record, settled, hfound, hsettled, hafter⟩

theorem Holds.kept {after : MemoryStore} {resolution : Resolution} {now : Instant}
    (hholds : store.Holds reservation held)
    (hsettles : held.Settles reservation resolution now after) {product : ProductId}
    (habsent : product ∉ reservation.products) :
    after.inventory.find? product = store.inventory.find? product :=
  (hsettles.edited.kept product habsent).trans (hholds.edited.kept product habsent)

/-- Giving back what was just held undoes the hold. -/
theorem Holds.sameStock {after : MemoryStore} {resolution : Resolution} {now : Instant}
    (hholds : store.Holds reservation held)
    (hsettles : held.Settles reservation resolution now after)
    (hreturned : resolution ≠ .confirm) : after.SameStock store := by
  intro product
  by_cases hnamed : product ∈ reservation.products
  · obtain ⟨line, hline, rfl⟩ := List.mem_map.1 hnamed
    obtain ⟨record, updated, hfound, hsettled, hafter⟩ := hholds.settled hsettles line hline
    rw [hfound, hafter]
    cases resolution with
    | confirm => exact absurd rfl hreturned
    | release | expire => exact congrArg some hsettled
  · rw [hholds.kept hsettles hnamed]

/-- Confirming what was just held takes what was asked for out of the available stock. -/
theorem Holds.loses {after : MemoryStore} {now : Instant} {lines : List ReservationLine}
    (hholds : store.Holds reservation held)
    (hsettles : held.Settles reservation .confirm now after)
    (hmerges : ReservationLine.Merges lines reservation.lines) :
    store.Loses (ReservationLine.products lines) (ReservationLine.asked lines) after := by
  have hnamed {product : ProductId} :
      product ∈ ReservationLine.products lines ↔ product ∈ reservation.products := by
    rw [Reservation.products, hmerges.products, List.mem_eraseDups]
  constructor
  · intro product hmem
    obtain ⟨line, hline, rfl⟩ := List.mem_map.1 (hnamed.1 hmem)
    rw [← hmerges.asked, ReservationLine.asked_of_mem hmerges.distinct hline]
    exact hholds.settled hsettles line hline
  · intro product habsent
    exact hholds.kept hsettles (mt hnamed.2 habsent)

end MemoryStore

end Stockroom
