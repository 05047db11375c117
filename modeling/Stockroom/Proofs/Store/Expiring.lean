import Stockroom.Proofs.Store.GivingBack

/-!
# Expiring in either order

Two reservations that can be expired one after the other can be expired the
other way round, and leave the same store behind.
-/

namespace Stockroom

/-- Two releases that succeed one after the other succeed the other way round. -/
theorem StockRecord.release_comm {record updated last : StockRecord} {first second : Quantity}
    {now : Instant} (hfirst : record.release first now = .ok updated)
    (hsecond : updated.release second now = .ok last) :
    ∃ between, record.release second now = .ok between ∧
      between.release first now = .ok last := by
  obtain ⟨hone, _, available, havailable, reserved, hreserved, rfl⟩ := release_eq_ok_iff.1 hfirst
  obtain ⟨hother, _, most, hmost, least, hleast, rfl⟩ := release_eq_ok_iff.1 hsecond
  dsimp only at hmost hleast
  have hlarge := most.value_le
  have hheld := record.reserved.value_le
  let returned : Quantity := ⟨record.available.value + second.value, by omega⟩
  let left : Quantity := ⟨record.reserved.value - second.value, by omega⟩
  have hleft : left.value + second.value = record.reserved.value := Nat.sub_add_cancel (by omega)
  refine ⟨{ record with available := returned, reserved := left, updatedAt := now },
    release_eq_ok_iff.2 ⟨hother, by omega, returned, rfl, left, hleft, rfl⟩,
    release_eq_ok_iff.2 ⟨hone, ?_, most, ?_, least, ?_, rfl⟩⟩
  · change first.value ≤ left.value
    omega
  · change most.value = record.available.value + second.value + first.value
    omega
  · change least.value + first.value = left.value
    omega

namespace WorkingCopy

/-- Edits that succeed one after the other on a record do so the other way round. -/
def Commutes (edit : ReservationLine → StockRecord → Except StockError StockRecord) : Prop :=
  ∀ ⦃one other record updated last⦄, edit one record = .ok updated → edit other updated = .ok last →
    ∃ between, edit other record = .ok between ∧ edit one between = .ok last

theorem commutes_expire (now : Instant) : Commutes (resolveEdit .expire now) := by
  intro one other record updated last hfirst hsecond
  obtain ⟨between, hone, hother⟩ :=
    StockRecord.release_comm (mapError_eq_ok_iff.1 hfirst) (mapError_eq_ok_iff.1 hsecond)
  exact ⟨between, mapError_eq_ok_iff.2 hone, mapError_eq_ok_iff.2 hother⟩

namespace Edited

variable {edit : ReservationLine → StockRecord → Except StockError StockRecord}
  {first second : List ReservationLine}
  {before middle between after last : ProductId → Option StockRecord}

/-- What was edited second could have been edited first. -/
theorem applies_early (hcommutes : Commutes edit) (hfirst : Edited edit first before middle)
    (hsecond : Edited edit second middle after) :
    ∀ line ∈ second, ∃ record updated, before line.product = some record ∧
      edit line record = .ok updated := by
  intro line hline
  obtain ⟨record, updated, hfound, hedit, _⟩ := hsecond.changed line hline
  by_cases hmem : line.product ∈ ReservationLine.products first
  · obtain ⟨earlier, hearlier, hproduct⟩ := List.mem_map.1 hmem
    obtain ⟨old, new, hold, hnew, hmiddle⟩ := hfirst.changed earlier hearlier
    rw [hproduct] at hold hmiddle
    obtain rfl : new = record := Option.some.inj (hmiddle.symm.trans hfound)
    obtain ⟨one, hone, _⟩ := hcommutes hnew hedit
    exact ⟨old, one, hold, hone⟩
  · rw [hfirst.kept _ hmem] at hfound
    exact ⟨record, updated, hfound, hedit⟩

/-- What was edited first can then be edited after it, with the same result. -/
theorem applies_late (hcommutes : Commutes edit) (hfirst : Edited edit first before middle)
    (hsecond : Edited edit second middle after) (hearly : Edited edit second before between) :
    ∀ line ∈ first, ∃ record updated, between line.product = some record ∧
      edit line record = .ok updated ∧ after line.product = some updated := by
  intro line hline
  obtain ⟨record, updated, hfound, hedit, hmiddle⟩ := hfirst.changed line hline
  by_cases hmem : line.product ∈ ReservationLine.products second
  · obtain ⟨later, hlater, hproduct⟩ := List.mem_map.1 hmem
    obtain ⟨old, new, hold, hnew, hafter⟩ := hsecond.changed later hlater
    obtain ⟨first, one, hrecord, hone, hbetween⟩ := hearly.changed later hlater
    rw [hproduct] at hold hafter hrecord hbetween
    obtain rfl : old = updated := Option.some.inj (hold.symm.trans hmiddle)
    obtain rfl : first = record := Option.some.inj (hrecord.symm.trans hfound)
    obtain ⟨other, hother, hlast⟩ := hcommutes hedit hnew
    obtain rfl : one = other := Except.ok.inj (hone.symm.trans hother)
    exact ⟨one, new, hbetween, hlast, hafter⟩
  · refine ⟨record, updated, ?_, hedit, ?_⟩
    · rw [hearly.kept _ hmem, hfound]
    · rw [hsecond.kept _ hmem, hmiddle]

theorem comm (hcommutes : Commutes edit) (hfirst : Edited edit first before middle)
    (hsecond : Edited edit second middle after) (hearly : Edited edit second before between)
    (hlate : Edited edit first between last) : last = after := by
  funext product
  by_cases hmem : product ∈ ReservationLine.products first
  · obtain ⟨line, hline, rfl⟩ := List.mem_map.1 hmem
    obtain ⟨record, updated, hfound, hedit, hafter⟩ :=
      applies_late hcommutes hfirst hsecond hearly line hline
    obtain ⟨old, new, hold, hnew, hlast⟩ := hlate.changed line hline
    obtain rfl : old = record := Option.some.inj (hold.symm.trans hfound)
    obtain rfl : new = updated := Except.ok.inj (hnew.symm.trans hedit)
    rw [hlast, hafter]
  · rw [hlate.kept product hmem]
    by_cases hother : product ∈ ReservationLine.products second
    · obtain ⟨line, hline, rfl⟩ := List.mem_map.1 hother
      obtain ⟨record, updated, hfound, hedit, hafter⟩ := hsecond.changed line hline
      obtain ⟨old, new, hold, hnew, hbetween⟩ := hearly.changed line hline
      rw [hfirst.kept _ hmem, hold] at hfound
      obtain rfl : old = record := Option.some.inj hfound
      obtain rfl : new = updated := Except.ok.inj (hnew.symm.trans hedit)
      rw [hbetween, hafter]
    · rw [hearly.kept product hother, hsecond.kept product hother, hfirst.kept product hmem]

end Edited

end WorkingCopy

namespace MemoryStore

variable {store : MemoryStore} {reservation : Reservation} {now : Instant}

theorem hasRoom_of_edits (hedits : ∀ line ∈ reservation.lines, ∃ record updated,
      store.inventory.find? line.product = some record ∧
        WorkingCopy.resolveEdit .expire now line record = .ok updated) :
    store.HasRoom reservation := by
  intro line hline record hfound
  obtain ⟨old, updated, hold, hedit⟩ := hedits line hline
  obtain rfl : old = record := Option.some.inj (hold.symm.trans hfound)
  obtain ⟨_, _, available, havailable, _⟩ :=
    StockRecord.release_eq_ok_iff.1 (mapError_eq_ok_iff.1 hedit)
  rw [← havailable]
  exact available.value_le

/-- A reservation of a store that is pending there and past its deadline. -/
structure Overdue (store : MemoryStore) (now : Instant) (reservation : Reservation) : Prop where
  found : store.reservations.find? reservation.id = some reservation
  pending : reservation.isPending = true
  expired : reservation.isExpired now = true

/-- The store takes back the units of an overdue reservation and is another one then. -/
structure Expires (store : MemoryStore) (now : Instant) (reservation : Reservation)
    (after : MemoryStore) : Prop where
  answer : MemoryStore.answer (.resolve reservation.id .expire now) store =
    (.ok ⟨.applied, reservation.resolved .expire now⟩, after)
  settles : store.Settles reservation .expire now after

/-- An overdue reservation expires, or the store stays as it is. -/
theorem Balanced.expires_or_stays (hbalanced : store.Balanced)
    (hoverdue : store.Overdue now reservation) :
    (∃ after, store.Expires now reservation after) ∨
      ∃ error, MemoryStore.answer (.resolve reservation.id .expire now) store =
        (.error error, store) := by
  rcases resolve_cases hbalanced.toKeyed reservation.id .expire now
      (fun one hone => (hbalanced.consolidated _ one hone).distinct) with
    hfailed | ⟨other, hother, hterminal, _⟩ | ⟨other, after, hother, _, _, heq, hsettles⟩
  · exact .inr hfailed
  · rw [Option.some.inj (hother.symm.trans hoverdue.found), hoverdue.pending] at hterminal
    cases hterminal
  · obtain rfl : other = reservation := Option.some.inj (hother.symm.trans hoverdue.found)
    exact .inl ⟨after, heq, hsettles⟩

theorem Balanced.expires_of_hasRoom (hbalanced : store.Balanced)
    (hoverdue : store.Overdue now reservation) (hroom : store.HasRoom reservation) :
    ∃ after, store.Expires now reservation after := by
  refine (hbalanced.expires_or_stays hoverdue).resolve_right ?_
  rintro ⟨error, hfailed⟩
  have hreturned : Resolution.expire ≠ .confirm := by decide
  rcases answer_giveBack hbalanced hoverdue.found hoverdue.pending hreturned hoverdue.expired with
    ⟨_, hanswer⟩ | ⟨hfull, _⟩
  · rw [hfailed] at hanswer
    cases hanswer
  · exact hfull hroom

theorem Overdue.of_expires {other : Reservation} (hoverdue : store.Overdue now reservation)
    {after : MemoryStore} (hexpires : store.Expires now other after)
    (hne : other.id ≠ reservation.id) : after.Overdue now reservation where
  found := by rw [hexpires.settles.reservations, SortedMap.find?_insert, if_neg hne, hoverdue.found]
  pending := hoverdue.pending
  expired := hoverdue.expired

theorem Balanced.of_expires (hbalanced : store.Balanced) {after : MemoryStore}
    (hexpires : store.Expires now reservation after) : after.Balanced := by
  have hkept : (MemoryStore.answer (.resolve reservation.id .expire now) store).2.Balanced :=
    hbalanced.answer trivial
  rwa [hexpires.answer] at hkept

/-- Two reservations that expire one after the other expire the other way round. -/
theorem Balanced.expires_comm (hbalanced : store.Balanced) {first second : Reservation}
    (hone : store.Overdue now first) (hother : store.Overdue now second)
    (hne : first.id ≠ second.id) {middle after : MemoryStore}
    (hfirst : store.Expires now first middle) (hsecond : middle.Expires now second after) :
    ∃ between, store.Expires now second between ∧ between.Expires now first after := by
  have hcommutes := WorkingCopy.commutes_expire now
  obtain ⟨between, hearly⟩ := hbalanced.expires_of_hasRoom hother
    (hasRoom_of_edits (WorkingCopy.Edited.applies_early hcommutes hfirst.settles.edited
      hsecond.settles.edited))
  have hbetween : between.Balanced := hbalanced.of_expires hearly
  obtain ⟨last, hlate⟩ := hbetween.expires_of_hasRoom (hone.of_expires hearly hne.symm)
    (hasRoom_of_edits fun line hline => by
      obtain ⟨record, updated, hfound, hedit, _⟩ := WorkingCopy.Edited.applies_late hcommutes
        hfirst.settles.edited hsecond.settles.edited hearly.settles.edited line hline
      exact ⟨record, updated, hfound, hedit⟩)
  have hinventory : last.inventory = after.inventory :=
    SortedMap.ext_find? (congrFun (WorkingCopy.Edited.comm hcommutes hfirst.settles.edited
      hsecond.settles.edited hearly.settles.edited hlate.settles.edited))
  have hreservations : last.reservations = after.reservations := by
    rw [hlate.settles.reservations, hearly.settles.reservations, hsecond.settles.reservations,
      hfirst.settles.reservations, SortedMap.insert_comm _ hne]
  have hprocessed : last.processed = after.processed := by
    rw [hlate.settles.processed, hearly.settles.processed, hsecond.settles.processed,
      hfirst.settles.processed]
  obtain rfl : last = after := by
    cases last
    cases after
    congr
  exact ⟨between, hearly, hlate⟩

end MemoryStore

end Stockroom
