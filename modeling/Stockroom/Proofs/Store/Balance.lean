import Stockroom.Proofs.Store.Effects

/-!
# Held stock is accounted for

The reserved units of every record are exactly the units that pending
reservations hold of its product, and a product with a pending reservation has
a record.  Every call keeps this balance, whether it succeeds or fails.
-/

namespace Stockroom

namespace Reservation

theorem held_le_quantityOf (reservation : Reservation) (product : ProductId) :
    reservation.held product ≤ reservation.quantityOf product := by
  rw [held]
  split
  · exact le_refl _
  · exact Nat.zero_le _

theorem held_of_pending {reservation : Reservation} (hpending : reservation.isPending = true)
    (product : ProductId) : reservation.held product = reservation.quantityOf product :=
  if_pos hpending

theorem held_of_not_mem {reservation : Reservation} {product : ProductId}
    (habsent : product ∉ reservation.products) : reservation.held product = 0 := by
  have hbound := reservation.held_le_quantityOf product
  rw [quantityOf_of_not_mem habsent] at hbound
  exact Nat.le_zero.1 hbound

theorem held_pos {reservation : Reservation}
    (hlines : ReservationLine.Consolidated reservation.lines)
    (hpending : reservation.isPending = true) {product : ProductId}
    (hmem : product ∈ reservation.products) : 0 < reservation.held product := by
  obtain ⟨line, hline, rfl⟩ := List.mem_map.1 hmem
  rw [held_of_pending hpending, quantityOf_line hlines.distinct hline]
  exact hlines.positive line hline

theorem held_resolved (reservation : Reservation) (resolution : Resolution) (now : Instant)
    (product : ProductId) : (reservation.resolved resolution now).held product = 0 := by
  cases resolution <;> rfl

end Reservation

namespace MemoryStore

/-- The units of a product that all pending reservations hold. -/
def heldUnits (store : MemoryStore) (product : ProductId) : Nat :=
  ((store.reservations.values.filter Reservation.isPending).map
    (fun reservation => reservation.quantityOf product)).sum

theorem heldUnits_eq_total (store : MemoryStore) (product : ProductId) :
    store.heldUnits product = store.reservations.total (·.held product) := by
  rw [heldUnits, SortedMap.total]
  induction store.reservations.values with
  | nil => rfl
  | cons reservation rest ih =>
    cases hpending : reservation.isPending with
    | true => simp [hpending, Reservation.held, ih]
    | false => simp [hpending, Reservation.held, ih]

structure Balanced (store : MemoryStore) : Prop extends store.Keyed where
  consolidated : ∀ id reservation, store.reservations.find? id = some reservation →
    ReservationLine.Consolidated reservation.lines
  counted : ∀ product record, store.inventory.find? product = some record →
    record.reserved.value = store.heldUnits product
  present : ∀ id reservation, store.reservations.find? id = some reservation →
    reservation.isPending = true → ∀ product ∈ reservation.products,
      ∃ record, store.inventory.find? product = some record

theorem heldUnits_eq_zero {store : MemoryStore} {product : ProductId}
    (hfree : ∀ id reservation, store.reservations.find? id = some reservation →
      reservation.isPending = true → product ∉ reservation.products) :
    store.heldUnits product = 0 := by
  rw [heldUnits, List.sum_eq_zero_iff]
  intro units hunits
  obtain ⟨reservation, hmem, rfl⟩ := List.mem_map.1 hunits
  obtain ⟨hstored, hpending⟩ := List.mem_filter.1 hmem
  obtain ⟨id, hfound⟩ := SortedMap.mem_values_iff.1 hstored
  exact Reservation.quantityOf_of_not_mem (hfree id reservation hfound hpending)

theorem held_le_heldUnits {store : MemoryStore} {id : Uuid} {reservation : Reservation}
    (hfound : store.reservations.find? id = some reservation) (product : ProductId) :
    reservation.held product ≤ store.heldUnits product := by
  rw [heldUnits_eq_total]
  exact SortedMap.count_le_total (fun one => one.held product) hfound

namespace Balanced

theorem empty : MemoryStore.empty.Balanced where
  toKeyed := Keyed.empty
  consolidated _ _ hfound := (Option.some_ne_none _ hfound.symm).elim
  counted _ _ hfound := (Option.some_ne_none _ hfound.symm).elim
  present _ _ hfound := (Option.some_ne_none _ hfound.symm).elim

variable {store after : MemoryStore}

/-- Other units of a product may come and go, as long as its reserved units stay. -/
theorem insertRecord (hbalanced : store.Balanced) {record : StockRecord}
    (hcounted : record.reserved.value = store.heldUnits record.product) :
    Balanced { store with inventory := store.inventory.insert record.product record } where
  toKeyed := hbalanced.toKeyed.insertRecord record
  consolidated := hbalanced.consolidated
  counted product found hfound := by
    rw [SortedMap.find?_insert] at hfound
    split at hfound
    · rename_i hproduct
      rw [← Option.some.inj hfound, hcounted, hproduct]
      rfl
    · exact hbalanced.counted product found hfound
  present id reservation hfound hpending product hmem := by
    rw [SortedMap.find?_insert]
    split
    · exact ⟨record, rfl⟩
    · exact hbalanced.present id reservation hfound hpending product hmem

/-- A record without reserved units has no pending reservation behind it. -/
theorem eraseRecord (hbalanced : store.Balanced) {product : ProductId}
    (hfree : store.heldUnits product = 0) :
    Balanced { store with inventory := store.inventory.erase product } where
  toKeyed := hbalanced.toKeyed.eraseRecord product
  consolidated := hbalanced.consolidated
  counted other found hfound := by
    rw [SortedMap.find?_erase] at hfound
    split at hfound
    · cases hfound
    · exact hbalanced.counted other found hfound
  present id reservation hfound hpending other hmem := by
    rw [SortedMap.find?_erase]
    split
    · rename_i hproduct
      have hheld := Reservation.held_pos (hbalanced.consolidated id reservation hfound)
        hpending (hproduct ▸ hmem)
      have hbound : _ ≤ store.heldUnits product := held_le_heldUnits hfound product
      omega
    · exact hbalanced.present id reservation hfound hpending other hmem

theorem change (hbalanced : store.Balanced) (product : ProductId)
    {edit : StockRecord → Except Violation StockRecord}
    (hkeeps : ∀ record updated, edit record = .ok updated →
      updated.product = record.product ∧ updated.reserved = record.reserved) :
    (store.perform (UnitOfWork.change product edit)).2.Balanced := by
  rcases store.change_cases product edit with
    ⟨error, heq⟩ | ⟨record, updated, hfound, hedit, heq⟩
  · rw [heq]
    exact hbalanced
  · obtain ⟨hproduct, hreserved⟩ := hkeeps record updated hedit
    rw [heq]
    refine hbalanced.insertRecord ?_
    rw [hreserved, hproduct, hbalanced.records product record hfound]
    exact hbalanced.counted product record hfound

theorem create (hbalanced : store.Balanced) {record : StockRecord}
    (hnew : record.reserved = .zero) : (store.create record).2.Balanced := by
  rw [MemoryStore.create]
  split
  · exact hbalanced
  · rename_i habsent
    refine hbalanced.insertRecord ?_
    rw [hnew]
    refine (heldUnits_eq_zero fun id reservation hfound hpending hmem => habsent ?_).symm
    obtain ⟨found, hrecord⟩ := hbalanced.present id reservation hfound hpending _ hmem
    simp [SortedMap.contains, hrecord]

theorem delete (hbalanced : store.Balanced) (product : ProductId) :
    (store.perform (UnitOfWork.delete product)).2.Balanced := by
  rw [perform_delete]
  cases hfound : store.inventory.find? product with
  | none => exact hbalanced
  | some record =>
    dsimp only
    split
    · exact hbalanced
    · rename_i hfree
      rw [Quantity.zero_lt_iff] at hfree
      have hcounted := hbalanced.counted product record hfound
      exact hbalanced.eraseRecord (by omega)

/-- When one reservation changes and with it the records of its lines, the balance is kept if
every record gains what its line now holds and loses what it held before. -/
theorem edited (hbalanced : store.Balanced) (hkeyed : after.Keyed) {changed : Reservation}
    {edit : ReservationLine → StockRecord → Except StockError StockRecord}
    (hedited : WorkingCopy.Edited edit changed.lines store.inventory.find? after.inventory.find?)
    (hreservations : after.reservations = store.reservations.insert changed.id changed)
    (hlines : ReservationLine.Consolidated changed.lines)
    (hsame : ∀ old, store.reservations.find? changed.id = some old → old.lines = changed.lines)
    (hmoves : ∀ line ∈ changed.lines, ∀ record updated, edit line record = .ok updated →
      updated.reserved.value +
          ((store.reservations.find? changed.id).map (·.held line.product)).getD 0 =
        record.reserved.value + changed.held line.product) :
    after.Balanced where
  toKeyed := hkeyed
  consolidated id reservation hfound := by
    rw [hreservations, SortedMap.find?_insert] at hfound
    split at hfound
    · rwa [← Option.some.inj hfound]
    · exact hbalanced.consolidated id reservation hfound
  counted product record hfound := by
    have htotal := store.reservations.total_insert changed.id changed (·.held product)
    rw [← hreservations, ← heldUnits_eq_total, ← heldUnits_eq_total] at htotal
    by_cases hmem : product ∈ changed.products
    · obtain ⟨line, hline, rfl⟩ := List.mem_map.1 hmem
      obtain ⟨old, updated, hold, hedit, hnew⟩ := hedited.changed line hline
      obtain rfl : updated = record := Option.some.inj (hnew.symm.trans hfound)
      have hmoved := hmoves line hline old updated hedit
      have hcounted := hbalanced.counted line.product old hold
      omega
    · rw [hedited.kept product hmem] at hfound
      have hcounted := hbalanced.counted product record hfound
      have hnone : ((store.reservations.find? changed.id).map (·.held product)).getD 0 = 0 := by
        cases hold : store.reservations.find? changed.id with
        | none => rfl
        | some old =>
          refine Reservation.held_of_not_mem ?_
          rwa [Reservation.products, hsame old hold]
      have hnow := Reservation.held_of_not_mem hmem
      omega
  present id reservation hfound hpending product hmem := by
    by_cases hchanged : product ∈ changed.products
    · obtain ⟨line, hline, rfl⟩ := List.mem_map.1 hchanged
      obtain ⟨_, updated, _, _, hnew⟩ := hedited.changed line hline
      exact ⟨updated, hnew⟩
    · rw [hedited.kept product hchanged]
      rw [hreservations, SortedMap.find?_insert] at hfound
      split at hfound
      · rw [← Option.some.inj hfound] at hmem
        exact absurd hmem hchanged
      · exact hbalanced.present id reservation hfound hpending product hmem

theorem reserve (hbalanced : store.Balanced) {reservation : Reservation}
    (hnew : reservation.IsNew) (hfresh : store.reservations.find? reservation.id = none) :
    (store.perform (UnitOfWork.reserve reservation)).2.Balanced := by
  have hkeyed := hbalanced.toKeyed.perform (UnitOfWork.reserve reservation)
  rcases reserve_cases hbalanced.toKeyed hnew.consolidated.distinct with
    ⟨error, heq⟩ | ⟨after, heq, hholds⟩
  · rwa [heq]
  · rw [heq] at hkeyed ⊢
    refine hbalanced.edited hkeyed hholds.edited hholds.reservations hnew.consolidated
      (fun old hold => absurd hold (by simp [hfresh])) ?_
    intro line hline record updated hedit
    obtain ⟨_, _, reserved, hreserved, _, _, rfl⟩ :=
      StockRecord.reserve_eq_ok_iff.1 (WorkingCopy.holdEdit_eq_ok_iff.1 hedit)
    rw [hfresh, Reservation.held_of_pending hnew.isPending,
      Reservation.quantityOf_line hnew.consolidated.distinct hline]
    exact hreserved

theorem reserved_of_resolveEdit {resolution : Resolution} {now : Instant} {line : ReservationLine}
    {record updated : StockRecord}
    (hedit : WorkingCopy.resolveEdit resolution now line record = .ok updated) :
    updated.reserved.value + line.quantity.value = record.reserved.value := by
  have hresolve := mapError_eq_ok_iff.1 hedit
  cases resolution with
  | confirm =>
    obtain ⟨_, _, _, hreserved, rfl⟩ := StockRecord.confirm_eq_ok_iff.1 hresolve
    exact hreserved
  | release | expire =>
    obtain ⟨_, _, _, _, _, hreserved, rfl⟩ := StockRecord.release_eq_ok_iff.1 hresolve
    exact hreserved

theorem resolve (hbalanced : store.Balanced) (id : Uuid) (resolution : Resolution)
    (now : Instant) : (store.perform (UnitOfWork.resolve id resolution now)).2.Balanced := by
  have hkeyed := hbalanced.toKeyed.perform (UnitOfWork.resolve id resolution now)
  rcases resolve_cases hbalanced.toKeyed id resolution now
      (fun reservation hfound => (hbalanced.consolidated id reservation hfound).distinct) with
    ⟨error, heq⟩ | ⟨reservation, _, _, heq⟩ |
      ⟨reservation, after, hfound, hpending, _, heq, hsettles⟩
  · rwa [heq]
  · rwa [heq]
  · rw [heq] at hkeyed ⊢
    have hlines := hbalanced.consolidated id reservation hfound
    have hid := hbalanced.reservations id reservation hfound
    have hstored : store.reservations.find? (reservation.resolved resolution now).id =
        some reservation := by rw [← hfound, ← hid]; rfl
    refine @edited store after hbalanced hkeyed (reservation.resolved resolution now) _
      hsettles.edited hsettles.reservations hlines ?_ ?_
    · intro old hold
      rw [Option.some.inj (hstored.symm.trans hold)]
      rfl
    · intro line hline record updated hedit
      have hmoved := reserved_of_resolveEdit hedit
      rw [hstored, Reservation.held_resolved]
      simp only [Option.map_some, Option.getD_some]
      rw [Reservation.held_of_pending hpending, Reservation.quantityOf_line hlines.distinct hline]
      exact hmoved

theorem answer (hbalanced : store.Balanced) {call : StoreCall} (hissued : call.IsIssued store) :
    (MemoryStore.answer call store).2.Balanced := by
  cases call with
  | create record =>
    obtain ⟨id, product, initial, threshold, now, rfl⟩ := hissued
    exact hbalanced.create rfl
  | adjust product adjustment now =>
    exact hbalanced.change product fun _ _ hedit => StockRecord.keeps_of_adjust hedit
  | setThreshold product threshold now =>
    refine hbalanced.change product fun record updated hedit => ?_
    cases hedit
    exact ⟨rfl, rfl⟩
  | delete product => exact hbalanced.delete product
  | reserve reservation => exact hbalanced.reserve hissued.1 hissued.2
  | resolve id resolution now => exact hbalanced.resolve id resolution now
  | recordProcessed command =>
    simp only [MemoryStore.answer, recordProcessed]
    split
    · exact hbalanced
    · exact { hbalanced with }
  | find _ | findMany _ | lowStock _ _ | findReservation _ | overdue _ _ | findProcessed _ =>
    exact hbalanced

end Balanced

theorem Reachable.balanced {store : MemoryStore} (hreachable : store.Reachable) :
    store.Balanced := by
  induction hreachable with
  | empty => exact Balanced.empty
  | answer _ call hissued ih => exact ih.answer hissued

end MemoryStore

end Stockroom
