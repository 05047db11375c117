import Stockroom.Proofs.Stock.Consolidating
import Stockroom.Proofs.Store.Overflowing

/-!
# Which reservations are held

A store holds the stock of a reservation exactly if each of its products has a
record with room for it.  Otherwise the call fails on the first obstacle that
it meets: records are locked by ascending product, and the lines are gone
through in their order once all of them are locked.
-/

namespace Stockroom

/-- There are that many units available, and room for them among the held ones. -/
structure StockRecord.CanHold (record : StockRecord) (units : Nat) : Prop where
  enough : units ≤ record.available.value
  room : record.reserved.value + units ≤ Quantity.maximum

namespace WorkingCopy

variable {line : ReservationLine} {record : StockRecord}

theorem holdEdit_of_short (hshort : record.available.value < line.quantity.value) (now : Instant) :
    holdEdit now line record = .error (.shortOf line.product) := by
  have hunfulfilled : record.canFulfil line.quantity = false := by
    rw [Bool.eq_false_iff, Ne, StockRecord.canFulfil_iff]
    exact Nat.not_le.2 hshort
  rw [holdEdit, hunfulfilled]
  rfl

theorem holdEdit_of_full (hpositive : 0 < line.quantity.value)
    (henough : line.quantity.value ≤ record.available.value)
    (hfull : Quantity.maximum < record.reserved.value + line.quantity.value) (now : Instant) :
    holdEdit now line record =
      .error (.violation (.quantityOutOfRange ↑(record.reserved.value + line.quantity.value))) := by
  have hfulfilled : record.canFulfil line.quantity = true := StockRecord.canFulfil_iff.2 henough
  cases hreserved : record.reserve line.quantity now with
  | ok updated =>
    obtain ⟨_, _, reserved, hsum, _⟩ := StockRecord.reserve_eq_ok_iff.1 hreserved
    rw [← hsum] at hfull
    exact absurd reserved.value_le (Nat.not_le.2 hfull)
  | error violation =>
    have hoverflows := StockRecord.overflows_of_reserve hpositive hfulfilled hreserved
    rw [holdEdit, hfulfilled, hreserved]
    exact congrArg Except.error hoverflows.cause

theorem exists_holdEdit (hpositive : 0 < line.quantity.value)
    (hholds : record.CanHold line.quantity.value) (now : Instant) :
    ∃ updated, holdEdit now line record = .ok updated := by
  simp only [holdEdit_eq_ok_iff, StockRecord.reserve_eq_ok_iff]
  obtain ⟨available, hsubtracted⟩ := Quantity.sub_of_le hholds.enough
  exact ⟨_, hpositive, hholds.enough, ⟨_, hholds.room⟩, rfl, available,
    Quantity.sub_eq_ok_iff.1 hsubtracted, rfl⟩

variable {edit : ReservationLine → StockRecord → Except StockError StockRecord}

theorem exists_editLines {copy : WorkingCopy} {lines : List ReservationLine}
    (hdistinct : (ReservationLine.products lines).Nodup)
    (hlines : ∀ line ∈ lines, ∃ record, copy.find? line.product = some record ∧
      ∃ updated, edit line record = .ok updated) :
    ∃ edited, copy.editLines edit lines = .ok edited := by
  cases hedited : copy.editLines edit lines with
  | ok edited => exact ⟨edited, rfl⟩
  | error error =>
    have hpresent (line : ReservationLine) (hline : line ∈ lines) :
        ∃ record, copy.find? line.product = some record :=
      (hlines line hline).imp fun _ hfound => hfound.1
    obtain ⟨line, hline, record, hfound, hfailed⟩ :=
      error_of_editLines hdistinct hpresent hedited
    obtain ⟨other, hother, updated, hupdated⟩ := hlines line hline
    obtain rfl : record = other := Option.some.inj (hfound.symm.trans hother)
    cases hfailed.symm.trans hupdated

theorem editLines_append (copy : WorkingCopy) (first second : List ReservationLine) :
    copy.editLines edit (first ++ second) =
      (copy.editLines edit first >>= fun edited => editLines edit edited second) := by
  induction first generalizing copy with
  | nil => rfl
  | cons line rest ih =>
    rw [List.cons_append, editLines, editLines]
    cases copy.lookup line.product with
    | error error => rfl
    | ok record =>
      rw [ok_bind, ok_bind]
      cases edit line record with
      | error error => rfl
      | ok updated => exact ih _

/-- Lines are not edited beyond the first that cannot be. -/
theorem editLines_of_first_error {copy : WorkingCopy} {before after : List ReservationLine}
    {error : StockError}
    (hdistinct : (ReservationLine.products (before ++ line :: after)).Nodup)
    (hbefore : ∀ earlier ∈ before, ∃ record, copy.find? earlier.product = some record ∧
      ∃ updated, edit earlier record = .ok updated)
    (hfound : copy.find? line.product = some record) (hfailed : edit line record = .error error) :
    copy.editLines edit (before ++ line :: after) = .error error := by
  rw [ReservationLine.products, List.map_append, List.nodup_append] at hdistinct
  obtain ⟨hfirst, _, hapart⟩ := hdistinct
  have habsent : line.product ∉ ReservationLine.products before := fun hmem =>
    hapart line.product hmem line.product (by simp) rfl
  obtain ⟨edited, hedited⟩ := exists_editLines hfirst hbefore
  have hkept := ((editLines_eq_ok_iff hfirst).1 hedited).kept line.product habsent
  rw [editLines_append, hedited, ok_bind, editLines, lookup_eq_ok_iff.2 (hkept.trans hfound),
    ok_bind, hfailed, error_bind]

end WorkingCopy

namespace MemoryStore

variable {store : MemoryStore} {reservation : Reservation}

theorem lockAll_of_first_missing (copy : WorkingCopy) {before after : List ProductId}
    {product : ProductId}
    (hbefore : ∀ earlier ∈ before, ∃ record, store.inventory.find? earlier = some record)
    (hmissing : store.inventory.find? product = none) :
    store.lockAll copy (before ++ product :: after) = .error (.productMissing product) := by
  induction before generalizing copy with
  | nil => simp only [List.nil_append, lockAll, hmissing]
  | cons first rest ih =>
    obtain ⟨⟨record, hfound⟩, hrest⟩ := List.forall_mem_cons.1 hbefore
    simpa only [List.cons_append, lockAll, hfound] using ih (copy.insert first record) hrest

/-- The records of a reservation are locked by ascending product, so the smallest product without
a record stops it. -/
theorem answer_reserve_of_missing {product : ProductId} (hmem : product ∈ reservation.products)
    (hmissing : store.inventory.find? product = none)
    (hfirst : ∀ other ∈ reservation.products, store.inventory.find? other = none →
      product ≤ other) :
    answer (.reserve reservation) store = (.error (.productMissing product), store) := by
  obtain ⟨before, after, horder⟩ := List.append_of_mem (Reservation.mem_lockOrder.2 hmem)
  have hascending : (before ++ product :: after).Pairwise (· < ·) :=
    horder ▸ ProductId.pairwise_sortedDistinct _
  have hbefore (earlier : ProductId) (hearlier : earlier ∈ before) :
      ∃ record, store.inventory.find? earlier = some record := by
    have hsmaller : earlier < product :=
      (List.pairwise_append.1 hascending).2.2 earlier hearlier product List.mem_cons_self
    have hnamed : earlier ∈ reservation.products := by
      rw [← Reservation.mem_lockOrder, horder]
      exact List.mem_append_left _ hearlier
    apply Option.ne_none_iff_exists'.1
    intro habsent
    exact Std.not_lt.2 (hfirst earlier hnamed habsent) hsmaller
  simp only [answer, perform_reserve, horder, lockAll_of_first_missing _ hbefore hmissing]

/-- Once its records are locked, the lines of a reservation decide. -/
theorem answer_reserve_locked {locked : WorkingCopy}
    (hlocked : store.lockAll .empty reservation.lockOrder = .ok locked) :
    answer (.reserve reservation) store =
      match locked.editLines (WorkingCopy.holdEdit reservation.createdAt) reservation.lines with
      | .error error => (.error error, store)
      | .ok held => (.ok reservation, { store.writeAll held.values with
          reservations := store.reservations.insert reservation.id reservation }) := by
  cases hheld : locked.editLines (WorkingCopy.holdEdit reservation.createdAt) reservation.lines <;>
    simp only [answer, perform_reserve, hlocked, WorkingCopy.hold, WorkingCopy.holdLines_eq, hheld]

theorem lockAll_lockOrder
    (hpresent : ∀ product ∈ reservation.products, ∃ record,
      store.inventory.find? product = some record) :
    ∃ locked, store.lockAll .empty reservation.lockOrder = .ok locked := by
  apply lockAll_of_present
  intro product hmem
  exact hpresent product (Reservation.mem_lockOrder.1 hmem)

/-- The first line that cannot be held fails the reservation. -/
theorem answer_reserve_of_first_error {before after : List ReservationLine}
    {line : ReservationLine} {record : StockRecord} {error : StockError}
    (hconsolidated : ReservationLine.Consolidated reservation.lines)
    (hlines : reservation.lines = before ++ line :: after)
    (hpresent : ∀ product ∈ reservation.products, ∃ record,
      store.inventory.find? product = some record)
    (hbefore : ∀ earlier ∈ before, ∀ record,
      store.inventory.find? earlier.product = some record →
        record.CanHold earlier.quantity.value)
    (hfound : store.inventory.find? line.product = some record)
    (hfailed : WorkingCopy.holdEdit reservation.createdAt line record = .error error) :
    answer (.reserve reservation) store = (.error error, store) := by
  obtain ⟨locked, hlocked⟩ := lockAll_lockOrder hpresent
  have hmem {one : ReservationLine} (hone : one ∈ before ++ line :: after) :
      one ∈ reservation.lines := hlines ▸ hone
  have hsame {one : ReservationLine} (hone : one ∈ before ++ line :: after) :
      locked.find? one.product = store.inventory.find? one.product :=
    find?_locked_line hlocked (hmem hone)
  have hearlier (earlier : ReservationLine) (hone : earlier ∈ before) :
      ∃ record, locked.find? earlier.product = some record ∧
        ∃ updated, WorkingCopy.holdEdit reservation.createdAt earlier record = .ok updated := by
    have hone' := List.mem_append_left (line :: after) hone
    obtain ⟨found, hfound⟩ := hpresent earlier.product (List.mem_map_of_mem (hmem hone'))
    have hpositive := hconsolidated.positive earlier (hmem hone')
    exact ⟨found, (hsame hone').trans hfound,
      WorkingCopy.exists_holdEdit hpositive (hbefore earlier hone found hfound) _⟩
  have hline : locked.find? line.product = some record := (hsame (by simp)).trans hfound
  rw [answer_reserve_locked hlocked, hlines, WorkingCopy.editLines_of_first_error
    (hlines ▸ hconsolidated.distinct) hearlier hline hfailed]

/-- A reservation is held if each of its lines can be. -/
theorem exists_answer_reserve (hkeyed : store.Keyed)
    (hconsolidated : ReservationLine.Consolidated reservation.lines)
    (hholds : ∀ line ∈ reservation.lines, ∃ record,
      store.inventory.find? line.product = some record ∧
        record.CanHold line.quantity.value) :
    ∃ after, answer (.reserve reservation) store = (.ok reservation, after) ∧
      Holds store reservation after := by
  have hpresent (product : ProductId) (hnamed : product ∈ reservation.products) :
      ∃ record, store.inventory.find? product = some record := by
    obtain ⟨line, hline, rfl⟩ := List.mem_map.1 hnamed
    exact (hholds line hline).imp fun _ hfound => hfound.1
  obtain ⟨locked, hlocked⟩ := lockAll_lockOrder hpresent
  have hlines (line : ReservationLine) (hline : line ∈ reservation.lines) :
      ∃ record, locked.find? line.product = some record ∧
        ∃ updated, WorkingCopy.holdEdit reservation.createdAt line record = .ok updated := by
    obtain ⟨record, hfound, hcan⟩ := hholds line hline
    have hpositive := hconsolidated.positive line hline
    exact ⟨record, (find?_locked_line hlocked hline).trans hfound,
      WorkingCopy.exists_holdEdit hpositive hcan _⟩
  obtain ⟨held, hheld⟩ := WorkingCopy.exists_editLines hconsolidated.distinct hlines
  have hedited := edited_writeAll hkeyed hconsolidated.distinct
    (fun _ => Reservation.mem_lockOrder) (fun _ _ _ => WorkingCopy.product_of_holdEdit)
    hlocked hheld
  rw [answer_reserve_locked hlocked, hheld]
  exact ⟨_, rfl, hedited, rfl, rfl⟩

/-- The store after units of some products were taken out of the available stock and held. -/
structure SetsAside (before : MemoryStore) (lines : List ReservationLine) (now : Instant)
    (after : MemoryStore) : Prop where
  moved : ∀ product ∈ ReservationLine.products lines, ∃ record available reserved,
    before.inventory.find? product = some record ∧
    available.value + ReservationLine.asked lines product = record.available.value ∧
    reserved.value = record.reserved.value + ReservationLine.asked lines product ∧
    after.inventory.find? product =
      some { record with available := available, reserved := reserved, updatedAt := now }
  kept : ∀ product, product ∉ ReservationLine.products lines →
    after.inventory.find? product = before.inventory.find? product
  processed : after.processed = before.processed

/-- A held reservation has set aside what was asked for, on however many lines. -/
theorem Holds.setsAside {after : MemoryStore} {lines : List ReservationLine}
    (hholds : Holds store reservation after)
    (hmerges : ReservationLine.Merges lines reservation.lines) :
    SetsAside store lines reservation.createdAt after where
  moved product hnamed := by
    have hmerged : product ∈ ReservationLine.products reservation.lines := by
      rw [hmerges.products]
      exact List.mem_eraseDups.2 hnamed
    obtain ⟨line, hline, rfl⟩ := List.mem_map.1 hmerged
    obtain ⟨record, updated, hbefore, hedit, hafter⟩ := hholds.edited.changed line hline
    obtain ⟨_, _, reserved, hreserved, available, havailable, rfl⟩ :=
      StockRecord.reserve_eq_ok_iff.1 (WorkingCopy.holdEdit_eq_ok_iff.1 hedit)
    rw [← hmerges.asked, ReservationLine.asked_of_mem hmerges.distinct hline]
    exact ⟨record, available, reserved, hbefore, havailable, hreserved, hafter⟩
  kept product habsent := by
    apply hholds.edited.kept
    rw [hmerges.products]
    exact fun hmem => habsent (List.mem_eraseDups.1 hmem)
  processed := hholds.processed

end MemoryStore

end Stockroom
