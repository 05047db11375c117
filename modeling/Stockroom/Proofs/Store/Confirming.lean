import Stockroom.Proofs.Store.GivingBack

/-!
# Confirming held stock

The units of a pending reservation can leave the stock at any time: its
products have records, and these hold at least its units, whatever other
reservations hold besides.  So only the deadline can keep it from being
confirmed.
-/

namespace Stockroom

/-- Held units can leave the stock. -/
theorem StockRecord.confirm_of_held {record : StockRecord} {quantity : Quantity}
    (hpositive : 0 < quantity.value) (hheld : quantity.value ≤ record.reserved.value)
    (now : Instant) : ∃ updated, record.confirm quantity now = .ok updated := by
  have hbound := record.reserved.value_le
  let reserved : Quantity := ⟨record.reserved.value - quantity.value, by omega⟩
  have hreserved : reserved.value + quantity.value = record.reserved.value :=
    Nat.sub_add_cancel hheld
  exact ⟨_, confirm_eq_ok_iff.2 ⟨hpositive, hheld, reserved, hreserved, rfl⟩⟩

namespace MemoryStore

variable {store : MemoryStore} {id : Uuid} {reservation : Reservation}

/-- No line of a pending reservation keeps it from being confirmed. -/
theorem Balanced.confirms_lines (hbalanced : store.Balanced)
    (hfound : store.reservations.find? id = some reservation)
    (hpending : reservation.isPending = true) {locked : WorkingCopy}
    (hlocked : store.lockAll .empty reservation.lockOrder = .ok locked) (now : Instant) :
    ∃ edited, locked.editLines (WorkingCopy.resolveEdit .confirm now) reservation.lines =
      .ok edited := by
  cases hedited : locked.editLines (WorkingCopy.resolveEdit .confirm now) reservation.lines with
  | ok edited => exact ⟨edited, rfl⟩
  | error error =>
    obtain ⟨line, hline, record, _, hheld, hfailed⟩ :=
      hbalanced.held_of_error hfound hpending hlocked hedited
    have hpositive := (hbalanced.consolidated id reservation hfound).positive line hline
    obtain ⟨updated, hconfirmed⟩ := StockRecord.confirm_of_held hpositive hheld now
    rw [WorkingCopy.resolveEdit, StockRecord.resolve, hconfirmed] at hfailed
    cases hfailed

/-- A pending reservation is confirmed unless its deadline has passed. -/
theorem answer_confirm (hbalanced : store.Balanced)
    (hfound : store.reservations.find? id = some reservation)
    (hpending : reservation.isPending = true) (now : Instant) :
    (answer (.resolve id .confirm now) store).1 =
      if reservation.isExpired now then .error (.violation .reservationExpired)
      else .ok ⟨.applied, reservation.resolved .confirm now⟩ := by
  obtain ⟨locked, hlocked⟩ := hbalanced.locks hfound hpending
  cases hexpired : reservation.isExpired now with
  | true =>
    have hforbidden : reservation.permits .confirm now = false := by
      rw [Reservation.permits, hexpired, Bool.not_true]
    simp only [answer]
    rw [perform_resolve, hfound]
    simp only [hpending, if_true, hlocked, hforbidden, Bool.false_eq_true, if_false,
      Reservation.deadlineViolation]
  | false =>
    have hpermits : reservation.permits .confirm now = true := by
      rw [Reservation.permits, hexpired, Bool.not_false]
    obtain ⟨edited, hedited⟩ := hbalanced.confirms_lines hfound hpending hlocked now
    rw [answer_resolve_locked hfound hpending hlocked hpermits, hedited]
    rfl

end MemoryStore

end Stockroom
