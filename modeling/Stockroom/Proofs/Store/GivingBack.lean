import Stockroom.Proofs.Store.Balance

/-!
# Giving held stock back

A pending reservation can be given back as long as the available units of
every product that it holds stay within the largest quantity.  Where one of
them would not, the whole resolution fails on that sum and changes nothing.
-/

namespace Stockroom

/-- Held units only fail to be given back if there is no room for them. -/
theorem StockRecord.release_error {record : StockRecord} {quantity : Quantity} {now : Instant}
    (hpositive : 0 < quantity.value) (hheld : quantity.value ≤ record.reserved.value)
    {violation : Violation} (herror : record.release quantity now = .error violation) :
    Quantity.maximum < record.available.value + quantity.value ∧
      violation = .quantityOutOfRange (record.available.value + quantity.value) := by
  have hpositive : quantity.ensurePositive = .ok () := Quantity.ensurePositive_eq_ok_iff.2 hpositive
  have hreserved : record.ensureReserved .release quantity = .ok () :=
    ensureReserved_eq_ok_iff.2 hheld
  rw [release, hpositive, ok_bind, hreserved, ok_bind] at herror
  cases hadded : record.available.add quantity with
  | error first =>
    rw [hadded] at herror
    cases herror
    exact Quantity.add_error hadded
  | ok available =>
    have hbound := record.reserved.value_le
    have hsubtracted : record.reserved.sub quantity =
        .ok ⟨record.reserved.value - quantity.value, by omega⟩ :=
      Quantity.sub_eq_ok_iff.2 (Nat.sub_add_cancel hheld)
    rw [hadded, ok_bind, hsubtracted] at herror
    cases herror

namespace WorkingCopy

variable {edit : ReservationLine → StockRecord → Except StockError StockRecord}

/-- Lines of distinct products that all have a record fail only where one of them does. -/
theorem error_of_editLines {copy : WorkingCopy} {lines : List ReservationLine} {error : StockError}
    (hdistinct : (ReservationLine.products lines).Nodup)
    (hpresent : ∀ line ∈ lines, ∃ record, copy.find? line.product = some record)
    (herror : copy.editLines edit lines = .error error) :
    ∃ line ∈ lines, ∃ record, copy.find? line.product = some record ∧
      edit line record = .error error := by
  induction lines generalizing copy with
  | nil => cases herror
  | cons line rest ih =>
    obtain ⟨hline, hrest⟩ := List.nodup_cons.1 hdistinct
    obtain ⟨⟨record, hfound⟩, hothers⟩ := List.forall_mem_cons.1 hpresent
    rw [editLines, lookup_eq_ok_iff.2 hfound, ok_bind] at herror
    cases hedit : edit line record with
    | error first =>
      rw [hedit] at herror
      cases herror
      exact ⟨line, List.mem_cons_self, record, hfound, hedit⟩
    | ok updated =>
      rw [hedit, ok_bind] at herror
      have hkept {other : ReservationLine} (hmem : other ∈ rest) :
          (copy.insert line.product updated).find? other.product = copy.find? other.product := by
        have hne : line.product ≠ other.product := fun heq =>
          hline (heq ▸ List.mem_map_of_mem hmem)
        rw [SortedMap.find?_insert, if_neg hne]
      have hinserted (other : ReservationLine) (hmem : other ∈ rest) :
          ∃ record, (copy.insert line.product updated).find? other.product = some record := by
        rw [hkept hmem]
        exact hothers other hmem
      obtain ⟨failing, hmem, found, hfailing, hfailed⟩ := ih hrest hinserted herror
      rw [hkept hmem] at hfailing
      exact ⟨failing, List.mem_cons_of_mem _ hmem, found, hfailing, hfailed⟩

end WorkingCopy

namespace MemoryStore

/-- The records of all lines of a reservation have room for what it holds. -/
def HasRoom (store : MemoryStore) (reservation : Reservation) : Prop :=
  ∀ line ∈ reservation.lines, ∀ record, store.inventory.find? line.product = some record →
    record.available.value + line.quantity.value ≤ Quantity.maximum

variable {store : MemoryStore} {id : Uuid} {reservation : Reservation}

/-- Every line of a pending reservation finds a record that holds its units. -/
theorem Balanced.held_line (hbalanced : store.Balanced)
    (hfound : store.reservations.find? id = some reservation)
    (hpending : reservation.isPending = true) {line : ReservationLine}
    (hline : line ∈ reservation.lines) :
    ∃ record, store.inventory.find? line.product = some record ∧
      line.quantity.value ≤ record.reserved.value := by
  have hlines := hbalanced.consolidated id reservation hfound
  obtain ⟨record, hrecord⟩ := hbalanced.present id reservation hfound hpending line.product
    (List.mem_map_of_mem hline)
  refine ⟨record, hrecord, ?_⟩
  have hheld := held_le_heldUnits hfound line.product
  rwa [Reservation.held_of_pending hpending, Reservation.quantityOf_line hlines.distinct hline,
    ← hbalanced.counted line.product record hrecord] at hheld

/-- Once the records of a pending reservation are locked, in time, its lines decide. -/
theorem answer_resolve_locked (hfound : store.reservations.find? id = some reservation)
    (hpending : reservation.isPending = true) {locked : WorkingCopy}
    (hlocked : store.lockAll .empty reservation.lockOrder = .ok locked)
    {resolution : Resolution} {now : Instant}
    (hpermits : reservation.permits resolution now = true) :
    answer (.resolve id resolution now) store =
      match locked.editLines (WorkingCopy.resolveEdit resolution now) reservation.lines with
      | .error error => (.error error, store)
      | .ok edited => (.ok ⟨.applied, reservation.resolved resolution now⟩,
          { store.writeAll edited.values with
            reservations := store.reservations.insert reservation.id
              (reservation.resolved resolution now) }) := by
  simp only [answer]
  rw [perform_resolve, hfound]
  cases hedited : locked.editLines (WorkingCopy.resolveEdit resolution now) reservation.lines <;>
    simp only [hpending, if_true, hlocked, hpermits, WorkingCopy.resolveLines_eq, hedited]

theorem find?_locked_line {locked : WorkingCopy}
    (hlocked : store.lockAll .empty reservation.lockOrder = .ok locked) {line : ReservationLine}
    (hline : line ∈ reservation.lines) :
    locked.find? line.product = store.inventory.find? line.product := by
  rw [(lockAll_eq_ok hlocked).2, if_pos]
  exact Reservation.mem_lockOrder.2 (List.mem_map_of_mem hline)

/-- All records of a pending reservation can be locked. -/
theorem Balanced.locks (hbalanced : store.Balanced)
    (hfound : store.reservations.find? id = some reservation)
    (hpending : reservation.isPending = true) :
    ∃ locked, store.lockAll .empty reservation.lockOrder = .ok locked := by
  apply lockAll_of_present
  intro product hmem
  exact hbalanced.present id reservation hfound hpending product (Reservation.mem_lockOrder.1 hmem)

/-- The locked record of a line that fails still holds the units of the line. -/
theorem Balanced.held_of_error (hbalanced : store.Balanced)
    (hfound : store.reservations.find? id = some reservation)
    (hpending : reservation.isPending = true) {locked : WorkingCopy}
    {edit : ReservationLine → StockRecord → Except StockError StockRecord} {error : StockError}
    (hlocked : store.lockAll .empty reservation.lockOrder = .ok locked)
    (herror : locked.editLines edit reservation.lines = .error error) :
    ∃ line ∈ reservation.lines, ∃ record, store.inventory.find? line.product = some record ∧
      line.quantity.value ≤ record.reserved.value ∧ edit line record = .error error := by
  have hstocked (line : ReservationLine) (hline : line ∈ reservation.lines) :
      ∃ record, locked.find? line.product = some record := by
    obtain ⟨record, hrecord, _⟩ := hbalanced.held_line hfound hpending hline
    exact ⟨record, (find?_locked_line hlocked hline).trans hrecord⟩
  obtain ⟨line, hline, record, hrecord, hfailed⟩ :=
    WorkingCopy.error_of_editLines (hbalanced.consolidated id reservation hfound).distinct
      hstocked herror
  rw [find?_locked_line hlocked hline] at hrecord
  obtain ⟨found, hfoundRecord, hheld⟩ := hbalanced.held_line hfound hpending hline
  obtain rfl : found = record := Option.some.inj (hfoundRecord.symm.trans hrecord)
  exact ⟨line, hline, found, hrecord, hheld, hfailed⟩

/-- Where every line was given back there was room for it. -/
theorem hasRoom_of_released {locked edited : WorkingCopy} {now : Instant}
    (hlocked : store.lockAll .empty reservation.lockOrder = .ok locked)
    (hdistinct : reservation.products.Nodup)
    (hedited : locked.editLines (WorkingCopy.resolveEdit .release now) reservation.lines =
      .ok edited) : store.HasRoom reservation := by
  intro line hline record hrecord
  obtain ⟨found, updated, hsame, hedit, _⟩ :=
    ((WorkingCopy.editLines_eq_ok_iff hdistinct).1 hedited).changed line hline
  rw [find?_locked_line hlocked hline, hrecord] at hsame
  obtain rfl := Option.some.inj hsame
  obtain ⟨_, _, available, havailable, _⟩ :=
    StockRecord.release_eq_ok_iff.1 (mapError_eq_ok_iff.1 hedit)
  rw [← havailable]
  exact available.value_le

/-- Lines that cannot all be given back fail on a product without room. -/
theorem no_room_of_error (hbalanced : store.Balanced)
    (hfound : store.reservations.find? id = some reservation)
    (hpending : reservation.isPending = true) {locked : WorkingCopy} {now : Instant}
    {error : StockError} (hlocked : store.lockAll .empty reservation.lockOrder = .ok locked)
    (herror : locked.editLines (WorkingCopy.resolveEdit .release now) reservation.lines =
      .error error) :
    ¬ store.HasRoom reservation ∧ ∃ units : Nat, Quantity.maximum < units ∧
      error = .violation (.quantityOutOfRange units) := by
  obtain ⟨line, hline, found, hrecord, hheld, hfailed⟩ :=
    hbalanced.held_of_error hfound hpending hlocked herror
  rw [WorkingCopy.resolveEdit, StockRecord.resolve] at hfailed
  cases hreleased : found.release line.quantity now with
  | ok updated =>
    rw [hreleased] at hfailed
    cases hfailed
  | error violation =>
    rw [hreleased] at hfailed
    cases hfailed
    obtain ⟨hlarge, rfl⟩ :=
      StockRecord.release_error ((hbalanced.consolidated id reservation hfound).positive line hline)
        hheld hreleased
    refine ⟨fun hroom => ?_, found.available.value + line.quantity.value, hlarge, rfl⟩
    exact absurd (hroom line hline found hrecord) (Nat.not_le.2 hlarge)

/-- What the store answers to giving a pending reservation back in time. -/
theorem answer_giveBack (hbalanced : store.Balanced)
    (hfound : store.reservations.find? id = some reservation)
    (hpending : reservation.isPending = true) {resolution : Resolution} {now : Instant}
    (hreturned : resolution ≠ .confirm) (hpermits : reservation.permits resolution now = true) :
    let ended := answer (.resolve id resolution now) store
    (store.HasRoom reservation ∧
      ended.1 = .ok ⟨.applied, reservation.resolved resolution now⟩) ∨
    ¬ store.HasRoom reservation ∧ ∃ units : Nat, Quantity.maximum < units ∧
      ended = (.error (.violation (.quantityOutOfRange units)), store) := by
  obtain ⟨locked, hlocked⟩ := hbalanced.locks hfound hpending
  have hsame : WorkingCopy.resolveEdit resolution now = WorkingCopy.resolveEdit .release now := by
    cases resolution with
    | confirm => exact absurd rfl hreturned
    | release | expire => rfl
  rw [answer_resolve_locked hfound hpending hlocked hpermits, hsame]
  cases hedited : locked.editLines (WorkingCopy.resolveEdit .release now) reservation.lines with
  | ok edited =>
    have hdistinct := (hbalanced.consolidated id reservation hfound).distinct
    exact .inl ⟨hasRoom_of_released hlocked hdistinct hedited, rfl⟩
  | error error =>
    obtain ⟨hfull, units, hlarge, rfl⟩ :=
      no_room_of_error hbalanced hfound hpending hlocked hedited
    exact .inr ⟨hfull, units, hlarge, rfl⟩

end MemoryStore

end Stockroom
