import Stockroom.Proofs.Store.Confirming

/-!
# Sums that are too large

A call of the store that was given well-formed arguments finds fault with its
request in one way only: units that are stored and units that are asked for
add up to more than the largest quantity.  Whatever else it turns down, it
turns down for the state that it met.
-/

namespace Stockroom

namespace StockError

theorem kind_violation_eq_validation_iff {violation : Violation} :
    (StockError.violation violation).kind = .validation ↔ violation.blamesRequest = true := by
  cases violation <;> simp [kind, violationKind, Violation.blamesRequest]

/-- Stored and asked units add up to more than a quantity can be, and the error names their sum. -/
structure Overflows (stored asked : Quantity) (error : StockError) : Prop where
  large : Quantity.maximum < stored.value + asked.value
  cause : error = .violation (.quantityOutOfRange (stored.value + asked.value))

end StockError

open StockError (Overflows)

theorem Quantity.overflows_of_add {left right : Quantity} {violation : Violation}
    (herror : left.add right = .error violation) : Overflows left right (.violation violation) := by
  obtain ⟨hlarge, rfl⟩ := add_error herror
  exact ⟨hlarge, rfl⟩

/-! ## Records -/

namespace StockRecord

variable {record : StockRecord} {quantity : Quantity} {now : Instant} {violation : Violation}

theorem overflows_of_increase (hpositive : 0 < quantity.value)
    (herror : record.increase quantity now = .error violation) :
    Overflows record.available quantity (.violation violation) := by
  rw [increase, Quantity.ensurePositive_of_pos hpositive, ok_bind] at herror
  cases hadded : record.available.add quantity with
  | error cause =>
    rw [hadded] at herror
    cases herror
    exact Quantity.overflows_of_add hadded
  | ok available =>
    rw [hadded] at herror
    cases herror

theorem ensureAvailable_error {requested : Quantity}
    (herror : record.ensureAvailable requested = .error violation) :
    violation = .insufficientStock record.available requested := by
  rw [ensureAvailable] at herror
  split at herror <;> cases herror
  rfl

theorem decrease_error (hpositive : 0 < quantity.value)
    (herror : record.decrease quantity now = .error violation) :
    violation = .insufficientStock record.available quantity := by
  rw [decrease, Quantity.ensurePositive_of_pos hpositive, ok_bind] at herror
  cases hchecked : record.ensureAvailable quantity with
  | error cause =>
    rw [hchecked] at herror
    cases herror
    exact ensureAvailable_error hchecked
  | ok _ =>
    obtain ⟨available, hsubtracted⟩ := Quantity.sub_of_le (ensureAvailable_eq_ok_iff.1 hchecked)
    rw [hchecked, ok_bind, hsubtracted] at herror
    cases herror

theorem overflows_of_adjust {adjustment : Adjustment}
    (hpositive : adjustment.kind ≠ .set → 0 < adjustment.quantity.value)
    (herror : record.adjust adjustment now = .error violation)
    (hblames : violation.blamesRequest = true) :
    adjustment.kind = .add ∧
      Overflows record.available adjustment.quantity (.violation violation) := by
  rw [adjust] at herror
  split at herror
  · rename_i hkind
    exact ⟨hkind, overflows_of_increase (hpositive (by simp [hkind])) herror⟩
  · rename_i hkind
    rw [decrease_error (hpositive (by simp [hkind])) herror] at hblames
    cases hblames
  · cases herror

theorem overflows_of_reserve (hpositive : 0 < quantity.value)
    (hfulfils : record.canFulfil quantity = true)
    (herror : record.reserve quantity now = .error violation) :
    Overflows record.reserved quantity (.violation violation) := by
  have hpresent := canFulfil_iff.1 hfulfils
  obtain ⟨available, hsubtracted⟩ := Quantity.sub_of_le hpresent
  have havailable : record.ensureAvailable quantity = .ok () :=
    ensureAvailable_eq_ok_iff.2 hpresent
  rw [reserve, Quantity.ensurePositive_of_pos hpositive, ok_bind, havailable, ok_bind] at herror
  cases hadded : record.reserved.add quantity with
  | error cause =>
    rw [hadded] at herror
    cases herror
    exact Quantity.overflows_of_add hadded
  | ok reserved =>
    rw [hadded, ok_bind, hsubtracted] at herror
    cases herror

end StockRecord

/-! ## Lines -/

namespace WorkingCopy

variable {line : ReservationLine} {record : StockRecord} {now : Instant} {error : StockError}

theorem overflows_of_holdEdit (hpositive : 0 < line.quantity.value)
    (herror : holdEdit now line record = .error error) (hkind : error.kind = .validation) :
    Overflows record.reserved line.quantity error := by
  simp only [holdEdit] at herror
  cases hfulfils : record.canFulfil line.quantity with
  | false =>
    rw [hfulfils] at herror
    cases herror
    cases hkind
  | true =>
    rw [hfulfils] at herror
    cases hreserved : record.reserve line.quantity now with
    | error violation =>
      rw [hreserved] at herror
      cases herror
      exact StockRecord.overflows_of_reserve hpositive hfulfils hreserved
    | ok updated =>
      rw [hreserved] at herror
      cases herror

theorem overflows_of_resolveEdit {resolution : Resolution} (hpositive : 0 < line.quantity.value)
    (hheld : line.quantity.value ≤ record.reserved.value)
    (herror : resolveEdit resolution now line record = .error error) :
    resolution ≠ .confirm ∧ Overflows record.available line.quantity error := by
  have hreleased {violation : Violation}
      (hfailed : record.release line.quantity now = .error violation) :
      Overflows record.available line.quantity (.violation violation) := by
    obtain ⟨hlarge, rfl⟩ := StockRecord.release_error hpositive hheld hfailed
    exact ⟨hlarge, rfl⟩
  cases resolution with
  | confirm =>
    obtain ⟨updated, hconfirmed⟩ := StockRecord.confirm_of_held hpositive hheld now
    rw [resolveEdit, StockRecord.resolve, hconfirmed] at herror
    cases herror
  | release | expire =>
    rw [resolveEdit, StockRecord.resolve] at herror
    cases hresult : record.release line.quantity now with
    | ok updated =>
      rw [hresult] at herror
      cases herror
    | error violation =>
      rw [hresult] at herror
      cases herror
      exact ⟨by decide, hreleased hresult⟩

end WorkingCopy

/-! ## Calls -/

namespace MemoryStore

variable {store : MemoryStore} {error : StockError}

theorem lockAll_error {copy : WorkingCopy} {products : List ProductId}
    (herror : store.lockAll copy products = .error error) :
    ∃ product, error = .productMissing product := by
  induction products generalizing copy with
  | nil => cases herror
  | cons first rest ih =>
    rw [lockAll] at herror
    split at herror
    · exact ih herror
    · cases herror
      exact ⟨first, rfl⟩

theorem change_error {product : ProductId} {edit : StockRecord → Except Violation StockRecord}
    (herror : (store.perform (UnitOfWork.change product edit)).1 = .error error) :
    error = .productMissing product ∨ ∃ record violation,
      store.inventory.find? product = some record ∧ edit record = .error violation ∧
        error = .violation violation := by
  rw [perform_change] at herror
  cases hfound : store.inventory.find? product with
  | none =>
    rw [hfound] at herror
    cases herror
    exact .inl rfl
  | some record =>
    cases hedited : edit record with
    | error violation =>
      simp only [hfound, hedited] at herror
      cases herror
      exact .inr ⟨record, violation, rfl, hedited, rfl⟩
    | ok updated =>
      simp only [hfound, hedited] at herror
      cases herror

/-- Of all adjustments, only an addition finds fault with its request. -/
theorem overflows_of_answer_adjust {product : ProductId} {adjustment : Adjustment} {now : Instant}
    (hpositive : adjustment.kind ≠ .set → 0 < adjustment.quantity.value)
    (herror : (answer (.adjust product adjustment now) store).1 = .error error)
    (hkind : error.kind = .validation) :
    adjustment.kind = .add ∧ ∃ record, store.inventory.find? product = some record ∧
      Overflows record.available adjustment.quantity error := by
  rcases change_error herror with rfl | ⟨record, violation, hfound, hedited, rfl⟩
  · cases hkind
  · have hblames := StockError.kind_violation_eq_validation_iff.1 hkind
    obtain ⟨hadds, hoverflows⟩ := StockRecord.overflows_of_adjust hpositive hedited hblames
    exact ⟨hadds, record, hfound, hoverflows⟩

theorem answer_setThreshold_error {product : ProductId} {threshold : Quantity} {now : Instant}
    (herror : (answer (.setThreshold product threshold now) store).1 = .error error) :
    error = .productMissing product := by
  rcases change_error herror with hmissing | ⟨_, _, _, hedited, _⟩
  · exact hmissing
  · cases hedited

theorem kind_of_answer_create_error {record : StockRecord}
    (herror : (answer (.create record) store).1 = .error error) : error.kind = .alreadyExists := by
  simp only [answer, create] at herror
  split at herror <;> cases herror
  rfl

theorem kind_of_answer_delete_error {product : ProductId}
    (herror : (answer (.delete product) store).1 = .error error) :
    error.kind ≠ .validation := by
  intro hkind
  simp only [answer, perform_delete] at herror
  split at herror
  · cases herror
    cases hkind
  · split at herror <;> cases herror
    cases hkind

/-- A new reservation finds fault with its request only where too many units would be held. -/
theorem overflows_of_answer_reserve {reservation : Reservation} (hnew : reservation.IsNew)
    (herror : (answer (.reserve reservation) store).1 = .error error)
    (hkind : error.kind = .validation) :
    ∃ line ∈ reservation.lines, ∃ record, store.inventory.find? line.product = some record ∧
      Overflows record.reserved line.quantity error := by
  simp only [answer, perform_reserve] at herror
  cases hlocked : store.lockAll .empty reservation.lockOrder with
  | error cause =>
    rw [hlocked] at herror
    cases herror
    obtain ⟨product, rfl⟩ := lockAll_error hlocked
    cases hkind
  | ok locked =>
    cases hheld : locked.hold reservation with
    | ok held =>
      simp only [hlocked, hheld] at herror
      cases herror
    | error cause =>
      simp only [hlocked, hheld] at herror
      cases herror
      rw [WorkingCopy.hold, WorkingCopy.holdLines_eq] at hheld
      have hstocked (line : ReservationLine) (hline : line ∈ reservation.lines) :
          ∃ record, locked.find? line.product = some record := by
        rw [find?_locked_line hlocked hline]
        exact (lockAll_eq_ok hlocked).1 line.product
          (Reservation.mem_lockOrder.2 (List.mem_map_of_mem hline))
      obtain ⟨line, hline, record, hrecord, hfailed⟩ :=
        WorkingCopy.error_of_editLines hnew.consolidated.distinct hstocked hheld
      rw [find?_locked_line hlocked hline] at hrecord
      have hpositive := hnew.consolidated.positive line hline
      exact ⟨line, hline, record, hrecord,
        WorkingCopy.overflows_of_holdEdit hpositive hfailed hkind⟩

/-- A resolution finds fault with its request only where units that would be given back find no
room. -/
theorem overflows_of_answer_resolve (hbalanced : store.Balanced) {id : Uuid}
    {resolution : Resolution} {now : Instant}
    (herror : (answer (.resolve id resolution now) store).1 = .error error)
    (hkind : error.kind = .validation) :
    resolution ≠ .confirm ∧ ∃ reservation, store.reservations.find? id = some reservation ∧
      reservation.isPending = true ∧
      ∃ line ∈ reservation.lines, ∃ record, store.inventory.find? line.product = some record ∧
        Overflows record.available line.quantity error := by
  cases hfound : store.reservations.find? id with
  | none =>
    simp only [answer] at herror
    rw [perform_resolve, hfound] at herror
    cases herror
    cases hkind
  | some reservation =>
    cases hpending : reservation.isPending with
    | false =>
      simp only [answer] at herror
      rw [perform_resolve, hfound] at herror
      simp only [hpending, Bool.false_eq_true, if_false,
        Reservation.resolve_terminal hpending] at herror
      split at herror <;> cases herror
      cases hkind
    | true =>
      obtain ⟨locked, hlocked⟩ := hbalanced.locks hfound hpending
      cases hpermits : reservation.permits resolution now with
      | false =>
        simp only [answer] at herror
        rw [perform_resolve, hfound] at herror
        simp only [hpending, if_true, hlocked, hpermits, Bool.false_eq_true, if_false] at herror
        cases herror
        cases resolution <;> cases hkind
      | true =>
        rw [answer_resolve_locked hfound hpending hlocked hpermits] at herror
        cases hedited : locked.editLines (WorkingCopy.resolveEdit resolution now)
            reservation.lines with
        | ok edited =>
          rw [hedited] at herror
          cases herror
        | error cause =>
          rw [hedited] at herror
          cases herror
          obtain ⟨line, hline, record, hrecord, hheld, hfailed⟩ :=
            hbalanced.held_of_error hfound hpending hlocked hedited
          have hpositive := (hbalanced.consolidated id reservation hfound).positive line hline
          obtain ⟨hreturns, hoverflows⟩ :=
            WorkingCopy.overflows_of_resolveEdit hpositive hheld hfailed
          exact ⟨hreturns, reservation, rfl, hpending, line, hline, record, hrecord, hoverflows⟩

end MemoryStore

end Stockroom
