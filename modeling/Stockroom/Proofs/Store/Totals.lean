import Stockroom.Proofs.Store.Balance

/-!
# Units of a product

All units of a product, available or held.  Holding stock and giving it back
leave their number alone; an adjustment and a confirmed reservation change it
by what they name.
-/

namespace Stockroom

/-- The units that an adjustment brings to a record with so many available units. -/
def AdjustmentKind.units (kind : AdjustmentKind) (quantity available : Int) : Int :=
  match kind with
  | .add => quantity
  | .subtract => -quantity
  | .set => quantity - available

/-- The units that leave the stock when a reservation of so many is resolved. -/
def Resolution.leaving : Resolution → Nat → Nat
  | .confirm, quantity => quantity
  | .release, _ | .expire, _ => 0

namespace StockRecord

theorem total_of_adjust {record updated : StockRecord} {adjustment : Adjustment} {now : Instant}
    (hadjust : record.adjust adjustment now = .ok updated) :
    (updated.total : Int) = record.total +
      adjustment.kind.units adjustment.quantity.value record.available.value := by
  rw [adjust] at hadjust
  cases hkind : adjustment.kind with
  | add =>
    rw [hkind] at hadjust
    obtain ⟨_, available, havailable, rfl⟩ := increase_eq_ok_iff.1 hadjust
    simp only [total, AdjustmentKind.units]
    omega
  | subtract =>
    rw [hkind] at hadjust
    obtain ⟨_, _, available, havailable, rfl⟩ := decrease_eq_ok_iff.1 hadjust
    simp only [total, AdjustmentKind.units]
    omega
  | set =>
    rw [hkind] at hadjust
    cases hadjust
    simp only [total, setAvailable, AdjustmentKind.units]
    omega

end StockRecord

namespace WorkingCopy

theorem total_of_holdEdit {now : Instant} {line : ReservationLine} {record updated : StockRecord}
    (hedit : holdEdit now line record = .ok updated) : updated.total = record.total := by
  obtain ⟨_, _, reserved, hreserved, available, havailable, rfl⟩ :=
    StockRecord.reserve_eq_ok_iff.1 (holdEdit_eq_ok_iff.1 hedit)
  simp only [StockRecord.total]
  omega

theorem total_of_resolveEdit {resolution : Resolution} {now : Instant} {line : ReservationLine}
    {record updated : StockRecord}
    (hedit : resolveEdit resolution now line record = .ok updated) :
    updated.total + resolution.leaving line.quantity.value = record.total := by
  have hresolve := mapError_eq_ok_iff.1 hedit
  cases resolution with
  | confirm =>
    obtain ⟨_, _, reserved, hreserved, rfl⟩ := StockRecord.confirm_eq_ok_iff.1 hresolve
    simp only [StockRecord.total, Resolution.leaving]
    omega
  | release | expire =>
    obtain ⟨_, _, available, havailable, reserved, hreserved, rfl⟩ :=
      StockRecord.release_eq_ok_iff.1 hresolve
    simp only [StockRecord.total, Resolution.leaving]
    omega

end WorkingCopy

namespace MemoryStore

/-- A product that has a record afterwards had one before, and the units of the product have
changed by so many. -/
def Moves (product : ProductId) (units : Int) (before after : MemoryStore) : Prop :=
  ∀ record, after.inventory.find? product = some record →
    ∃ old, before.inventory.find? product = some old ∧ (record.total : Int) = old.total + units

namespace Moves

variable {product : ProductId} {first second third store : MemoryStore}

theorem of_inventory (hsame : second.inventory.find? product = first.inventory.find? product) :
    Moves product 0 first second :=
  fun record hfound => ⟨record, hsame ▸ hfound, (Int.add_zero _).symm⟩

theorem refl (store : MemoryStore) : Moves product 0 store store :=
  of_inventory rfl

theorem trans (hfirst : Moves product 0 first second) (hsecond : Moves product 0 second third) :
    Moves product 0 first third := by
  intro record hfound
  obtain ⟨middle, hmiddle, hsecond⟩ := hsecond record hfound
  obtain ⟨old, hold, hfirst⟩ := hfirst middle hmiddle
  exact ⟨old, hold, by omega⟩

/-- When each line of a reservation changes its own record, the units of a product change as its
line says, and those of a product without a line stay. -/
theorem of_edited {edit : ReservationLine → StockRecord → Except StockError StockRecord}
    {reservation : Reservation} (hdistinct : reservation.products.Nodup)
    (hedited : WorkingCopy.Edited edit reservation.lines first.inventory.find?
      second.inventory.find?) (leaving : Nat → Nat) (hzero : leaving 0 = 0)
    (hleaves : ∀ line record updated, edit line record = .ok updated →
      updated.total + leaving line.quantity.value = record.total) :
    Moves product (-(leaving (reservation.quantityOf product) : Int)) first second := by
  intro record hfound
  by_cases hmem : product ∈ reservation.products
  · obtain ⟨line, hline, rfl⟩ := List.mem_map.1 hmem
    obtain ⟨old, updated, hold, hedit, hnew⟩ := hedited.changed line hline
    obtain rfl : updated = record := Option.some.inj (hnew.symm.trans hfound)
    refine ⟨old, hold, ?_⟩
    have htotal := hleaves line old updated hedit
    rw [Reservation.quantityOf_line hdistinct hline]
    omega
  · rw [hedited.kept product hmem] at hfound
    refine ⟨record, hfound, ?_⟩
    rw [Reservation.quantityOf_of_not_mem hmem, hzero]
    omega

theorem change (hkeyed : store.Keyed) (changed : ProductId)
    {edit : StockRecord → Except Violation StockRecord}
    (hkeeps : ∀ record updated, edit record = .ok updated → updated.product = record.product) :
    (∃ error, store.perform (UnitOfWork.change changed edit) = (.error error, store)) ∨
      ∃ record updated, store.inventory.find? changed = some record ∧ edit record = .ok updated ∧
        (store.perform (UnitOfWork.change changed edit)).1 = .ok updated ∧
        Moves product (if changed = product then (updated.total : Int) - record.total else 0) store
          (store.perform (UnitOfWork.change changed edit)).2 := by
  rcases store.change_cases changed edit with
    hfailed | ⟨record, updated, hfound, hedit, heq⟩
  · exact .inl hfailed
  · refine .inr ⟨record, updated, hfound, hedit, congrArg Prod.fst heq, ?_⟩
    have hsame : updated.product = changed :=
      (hkeeps record updated hedit).trans (hkeyed.records changed record hfound)
    rw [heq]
    intro now hnow
    rw [SortedMap.find?_insert, hsame] at hnow
    split at hnow
    · rename_i hproduct
      obtain rfl : updated = now := Option.some.inj hnow
      refine ⟨record, hproduct ▸ hfound, ?_⟩
      rw [if_pos hproduct]
      omega
    · rename_i hother
      rw [if_neg hother]
      exact ⟨now, hnow, (Int.add_zero _).symm⟩

variable (product) in
theorem adjust (hkeyed : store.Keyed) (changed : ProductId) (adjustment : Adjustment)
    (now : Instant) :
    (∃ error, store.perform (UnitOfWork.adjust changed adjustment now) = (.error error, store)) ∨
      ∃ record updated, store.inventory.find? changed = some record ∧
        (store.perform (UnitOfWork.adjust changed adjustment now)).1 = .ok updated ∧
        Moves product (if changed = product then
            adjustment.kind.units adjustment.quantity.value record.available.value else 0) store
          (store.perform (UnitOfWork.adjust changed adjustment now)).2 := by
  let edit (record : StockRecord) := record.adjust adjustment now
  have hkeeps (record updated : StockRecord) (hedit : edit record = .ok updated) :
      updated.product = record.product := (StockRecord.keeps_of_adjust hedit).1
  rcases Moves.change hkeyed changed hkeeps with
    hfailed | ⟨record, updated, hfound, hedit, hdone, hmoves⟩
  · exact .inl hfailed
  · refine .inr ⟨record, updated, hfound, hdone, ?_⟩
    have htotal := StockRecord.total_of_adjust hedit
    rwa [htotal, add_sub_cancel_left] at hmoves

theorem setThreshold (hkeyed : store.Keyed) (changed : ProductId) (threshold : Quantity)
    (now : Instant) :
    Moves product 0 store (store.perform (UnitOfWork.setThreshold changed threshold now)).2 := by
  let edit (record : StockRecord) : Except Violation StockRecord :=
    .ok (record.setThreshold threshold now)
  have hkeeps (record updated : StockRecord) (hedit : edit record = .ok updated) :
      updated.product = record.product := by
    cases hedit
    rfl
  rcases Moves.change hkeyed changed hkeeps with
    ⟨error, heq⟩ | ⟨record, updated, _, hedit, _, hmoves⟩
  · rw [UnitOfWork.setThreshold, heq]
    exact refl store
  · cases hedit
    have hsame : ((record.setThreshold threshold now).total : Int) - record.total = 0 :=
      Int.sub_self _
    rwa [hsame, ite_self] at hmoves

theorem delete (removed : ProductId) :
    Moves product 0 store (store.perform (UnitOfWork.delete removed)).2 := by
  rw [perform_delete]
  cases store.inventory.find? removed with
  | none => exact refl store
  | some record =>
    dsimp only
    split
    · exact refl store
    · intro now hnow
      rw [SortedMap.find?_erase] at hnow
      split at hnow
      · cases hnow
      · exact ⟨now, hnow, (Int.add_zero _).symm⟩

theorem reserve (hkeyed : store.Keyed) {reservation : Reservation}
    (hdistinct : reservation.products.Nodup) :
    Moves product 0 store (store.perform (UnitOfWork.reserve reservation)).2 := by
  rcases reserve_cases hkeyed hdistinct with ⟨error, heq⟩ | ⟨after, heq, hholds⟩
  · rw [heq]
    exact refl store
  · rw [heq]
    exact of_edited hdistinct hholds.edited (fun _ => 0) rfl
      fun _ _ _ => WorkingCopy.total_of_holdEdit

end Moves

/-- The units of a product that a resolution took out of the stock. -/
def departed (resolution : Resolution) (product : ProductId) : Except StockError Outcome → Nat
  | .ok ⟨.applied, reservation⟩ => resolution.leaving (reservation.quantityOf product)
  | _ => 0

theorem Moves.resolve {store : MemoryStore} (hbalanced : store.Balanced) (product : ProductId)
    (id : Uuid) (resolution : Resolution) (now : Instant) :
    Moves product
      (-(departed resolution product (answer (.resolve id resolution now) store).1 : Int))
      store (answer (.resolve id resolution now) store).2 := by
  have hdistinct (reservation : Reservation)
      (hfound : store.reservations.find? id = some reservation) :
      reservation.products.Nodup := (hbalanced.consolidated id reservation hfound).distinct
  simp only [answer]
  rcases resolve_cases hbalanced.toKeyed id resolution now hdistinct with
    ⟨error, heq⟩ | ⟨reservation, _, _, heq⟩ | ⟨reservation, after, hfound, _, _, heq, hsettles⟩
  · rw [heq]
    exact .refl store
  · rw [heq]
    exact .refl store
  · rw [heq]
    have hzero : resolution.leaving 0 = 0 := by cases resolution <;> rfl
    exact of_edited (hdistinct reservation hfound) hsettles.edited resolution.leaving hzero
      fun _ _ _ => WorkingCopy.total_of_resolveEdit

/-- Units of a reservation that was not confirmed stay stock of their product. -/
theorem Moves.giveBack {store : MemoryStore} (hbalanced : store.Balanced) (product : ProductId)
    (id : Uuid) (resolution : Resolution) (hreturned : resolution ≠ .confirm) (now : Instant) :
    Moves product 0 store (answer (.resolve id resolution now) store).2 := by
  have hmoves := Moves.resolve hbalanced product id resolution now
  have hnone (outcome : Except StockError Outcome) : departed resolution product outcome = 0 := by
    cases resolution with
    | confirm => exact absurd rfl hreturned
    | release | expire => simp only [departed, Resolution.leaving]; split <;> rfl
  rw [hnone] at hmoves
  exact hmoves

end MemoryStore

end Stockroom
