import Stockroom.Proofs.Concurrency.Order

/-!
# Units taken by reservations

Along any order of calls, the units that reservations have taken of a product
are at most those that were available at first or were made so by other calls.
-/

namespace Stockroom

/-- The units of a product in lines, all of its lines together. -/
def ReservationLine.units (lines : List ReservationLine) (product : ProductId) : Nat :=
  ((lines.filter (·.product = product)).map (·.quantity.value)).sum

/-- The available units of a record, zero without one. -/
def StockRecord.availableUnits (record : Option StockRecord) : Nat :=
  (record.map (·.available.value)).getD 0

def MemoryStore.availableUnits (store : MemoryStore) (product : ProductId) : Nat :=
  StockRecord.availableUnits (store.inventory.find? product)

open ReservationLine (units)

theorem WorkingCopy.availableUnits_editLines {now : Instant} {copy edited : WorkingCopy}
    {lines : List ReservationLine} (hedited : copy.editLines (holdEdit now) lines = .ok edited)
    (product : ProductId) :
    (edited.find? product).isSome = (copy.find? product).isSome ∧
      StockRecord.availableUnits (edited.find? product) + units lines product =
        StockRecord.availableUnits (copy.find? product) := by
  induction lines generalizing copy with
  | nil => cases hedited; exact ⟨rfl, rfl⟩
  | cons line rest ih =>
    simp only [editLines, bind_eq_ok_iff, lookup_eq_ok_iff, holdEdit_eq_ok_iff] at hedited
    obtain ⟨record, hfound, updated, hreserve, hrest⟩ := hedited
    obtain ⟨_, _, _, _, available, havailable, rfl⟩ := StockRecord.reserve_eq_ok_iff.1 hreserve
    obtain ⟨hpresent, hunits⟩ := ih hrest
    rw [SortedMap.find?_insert] at hpresent hunits
    by_cases hsame : line.product = product
    · subst hsame
      rw [if_pos rfl] at hpresent hunits
      rw [hfound]
      refine ⟨hpresent, ?_⟩
      simp only [units, List.filter_cons, decide_true, if_true, List.map_cons, List.sum_cons,
        StockRecord.availableUnits, Option.map_some, Option.getD_some] at hunits ⊢
      omega
    · rw [if_neg hsame] at hpresent hunits
      refine ⟨hpresent, ?_⟩
      simpa only [units, List.filter_cons, hsame, decide_false, Bool.false_eq_true, if_false]
        using hunits

namespace MemoryStore

/-- A reservation that succeeds takes its units out of the available ones. -/
theorem availableUnits_reserve {store after : MemoryStore} (hkeyed : store.Keyed)
    {reservation held : Reservation}
    (hreserve : store.perform (UnitOfWork.reserve reservation) = (.ok held, after))
    (product : ProductId) :
    after.availableUnits product + units reservation.lines product =
      store.availableUnits product := by
  rcases store.reserve_writes reservation with ⟨error, heq⟩ | ⟨locked, copy, hlocked, hheld, heq⟩
  · cases hreserve.symm.trans heq
  · cases hreserve.symm.trans heq
    obtain ⟨_, hlookup⟩ := lockAll_eq_ok hlocked
    have hcovers := (covers_of_lockAll hkeyed hlocked).editLines
      (fun _ _ _ => WorkingCopy.product_of_holdEdit) hheld
    obtain ⟨hpresent, hunits⟩ := WorkingCopy.availableUnits_editLines hheld product
    change StockRecord.availableUnits
      ((store.writeAll copy.values).inventory.find? product) + _ = _
    rw [store.find?_writeAll_values hcovers.keyed]
    rw [hlookup] at hpresent hunits
    by_cases hmem : product ∈ reservation.lockOrder
    · rw [if_pos hmem] at hpresent hunits
      cases hfound : copy.find? product with
      | some record => rwa [hfound] at hunits
      | none =>
        rw [hfound] at hunits
        rw [Option.none_or]
        have hmissing : store.inventory.find? product = none := by simpa [hfound] using hpresent
        rw [hmissing] at hunits
        rw [availableUnits, hmissing]
        exact hunits
    · rw [if_neg hmem, SortedMap.find?_empty] at hpresent hunits
      have hmissing : copy.find? product = none := by simpa using hpresent
      rw [hmissing] at hunits ⊢
      rw [Option.none_or]
      simp only [StockRecord.availableUnits, Option.map_none, Option.getD_none] at hunits
      rw [Nat.zero_add] at hunits
      rw [hunits, Nat.add_zero, availableUnits]

end MemoryStore

namespace RowCall

/-- The units of a product that a reservation took, if the call made one. -/
def unitsTaken : (call : RowCall) → call.Answer → ProductId → Nat
  | .reserve reservation, .ok _, product => units reservation.lines product
  | _, _, _ => 0

/-- The units of a product that a call makes available when its turn comes in an order. -/
def unitsAdded {count : Nat} (calls : Fin count → RowCall) (store : MemoryStore)
    (order : List (Fin count)) (product : ProductId) (process : Fin count) : Nat :=
  let before := after calls store (order.takeWhile (· ≠ process))
  (MemoryStore.answer (calls process).toStoreCall before).2.availableUnits product -
    before.availableUnits product

theorem unitsTaken_le (call : RowCall) {store : MemoryStore} (hkeyed : store.Keyed)
    (product : ProductId) :
    call.unitsTaken (MemoryStore.answer call.toStoreCall store).1 product +
        (MemoryStore.answer call.toStoreCall store).2.availableUnits product ≤
      store.availableUnits product +
        ((MemoryStore.answer call.toStoreCall store).2.availableUnits product -
          store.availableUnits product) := by
  cases call with
  | reserve reservation =>
    change unitsTaken (.reserve reservation) (store.perform (UnitOfWork.reserve reservation)).1 _ +
      (store.perform (UnitOfWork.reserve reservation)).2.availableUnits product ≤ _ +
        ((store.perform (UnitOfWork.reserve reservation)).2.availableUnits product - _)
    cases houtcome : store.perform (UnitOfWork.reserve reservation) with
    | mk outcome after =>
      cases outcome with
      | error error =>
        simp only [unitsTaken]
        omega
      | ok held =>
        have hunits := MemoryStore.availableUnits_reserve hkeyed houtcome product
        simp only [unitsTaken]
        omega
  | create _ | find _ | adjust _ _ _ | setThreshold _ _ _ | delete _ | resolve _ _ _
  | findReservation _ =>
    simp only [unitsTaken]
    omega

variable {count : Nat} (calls : Fin count → RowCall) {store : MemoryStore}

/-- Over a whole order, no more is taken than was available or was added. -/
theorem sum_unitsTaken_le (hkeyed : store.Keyed) (product : ProductId) {order : List (Fin count)}
    (hnodup : order.Nodup) :
    (order.map fun process =>
        (calls process).unitsTaken (answerIn calls store order process) product).sum +
        (after calls store order).availableUnits product ≤
      store.availableUnits product + (order.map (unitsAdded calls store order product)).sum := by
  induction order using List.reverseRecOn with
  | nil => exact le_of_eq (Nat.add_comm _ _)
  | append_singleton order last ih =>
    obtain ⟨hrest, _, hlast⟩ := List.nodup_append.1 hnodup
    have hmem : last ∉ order := fun hmem => hlast last hmem last (by simp) rfl
    have htaken : order.map (fun process => (calls process).unitsTaken
          (answerIn calls store (order ++ [last]) process) product) =
        order.map fun process =>
          (calls process).unitsTaken (answerIn calls store order process) product :=
      List.map_congr_left fun process hprocess => by rw [answerIn_append hprocess]
    have hadded : order.map (unitsAdded calls store (order ++ [last]) product) =
        order.map (unitsAdded calls store order product) :=
      List.map_congr_left fun process hprocess => by
        rw [unitsAdded, takeWhile_append_of_mem hprocess, unitsAdded]
    have hbefore : (order ++ [last]).takeWhile (· ≠ last) = order := by
      rw [takeWhile_append_of_not_mem hmem, List.takeWhile_cons_of_neg (by simp), List.append_nil]
    have hanswer : answerIn calls store (order ++ [last]) last =
        (MemoryStore.answer (calls last).toStoreCall (after calls store order)).1 := by
      rw [answerIn, hbefore]
    have hgained : unitsAdded calls store (order ++ [last]) product last =
        (MemoryStore.answer (calls last).toStoreCall
            (after calls store order)).2.availableUnits product -
          (after calls store order).availableUnits product := by
      rw [unitsAdded, hbefore]
    have hstep := unitsTaken_le (calls last) (keyed_after calls hkeyed order) product
    have hearlier := ih hrest
    rw [List.map_append, List.map_append, List.sum_append, List.sum_append, htaken, hadded,
      after_append]
    rw [List.map_singleton, List.map_singleton, List.sum_singleton, List.sum_singleton, hanswer]
    rw [hgained]
    change _ + _ + (MemoryStore.answer (calls last).toStoreCall
      (after calls store order)).2.availableUnits product ≤ _
    omega

end RowCall

end Stockroom
