import Stockroom.Proofs.Store.Locking

/-!
# Products that a call touches

A call changes the records of the products that its own answer names, and no
others.
-/

namespace Stockroom

/-- The products whose records a call may have changed, as its answer tells. -/
def StoreCall.touched : (call : StoreCall) → call.Answer → List ProductId
  | .create _, .ok record => [record.product]
  | .adjust product _ _, .ok _ => [product]
  | .setThreshold product _ _, .ok _ => [product]
  | .delete product, .ok _ => [product]
  | .reserve _, .ok reservation => reservation.products
  | .resolve _ _ _, .ok outcome =>
    if outcome.wasApplied then outcome.reservation.products else []
  | _, _ => []

namespace MemoryStore

variable {store : MemoryStore} {product : ProductId}

theorem find?_change_of_ne (hkeyed : store.Keyed) {changed : ProductId}
    {edit : StockRecord → Except Violation StockRecord}
    (hkeeps : ∀ record updated, edit record = .ok updated → updated.product = record.product)
    (huntouched : ∀ updated, (store.perform (UnitOfWork.change changed edit)).1 = .ok updated →
      product ≠ changed) :
    (store.perform (UnitOfWork.change changed edit)).2.inventory.find? product =
      store.inventory.find? product := by
  rcases store.change_cases changed edit with
    ⟨error, heq⟩ | ⟨record, updated, hfound, hedit, heq⟩
  · rw [heq]
  · rw [heq] at huntouched ⊢
    have hne := huntouched updated rfl
    have hsame : updated.product = changed :=
      (hkeeps record updated hedit).trans (hkeyed.records changed record hfound)
    rw [SortedMap.find?_insert, hsame, if_neg hne.symm]

/-- Written working copies leave the records of all other products alone. -/
theorem find?_writeAll_of_not_mem {copy : WorkingCopy} {products : List ProductId}
    (hcovers : copy.Covers products) (huntouched : product ∉ products) :
    (store.writeAll copy.values).inventory.find? product = store.inventory.find? product := by
  have habsent : copy.find? product = none := by
    cases hfound : copy.find? product with
    | none => rfl
    | some record => exact absurd (hcovers product record hfound).2 huntouched
  rw [store.find?_writeAll_values hcovers.keyed, habsent, Option.none_or]

theorem find?_reserve_of_not_touched (hkeyed : store.Keyed) {reservation : Reservation}
    (huntouched : product ∉
      StoreCall.touched (.reserve reservation) (answer (.reserve reservation) store).1) :
    (answer (.reserve reservation) store).2.inventory.find? product =
      store.inventory.find? product := by
  simp only [answer] at huntouched ⊢
  rcases store.reserve_writes reservation with ⟨error, heq⟩ | ⟨locked, held, hlocked, hheld, heq⟩
  · rw [heq]
  · rw [heq] at huntouched ⊢
    have hcovers := (covers_of_lockAll hkeyed hlocked).editLines
      (fun _ _ _ => WorkingCopy.product_of_holdEdit) hheld
    exact find?_writeAll_of_not_mem hcovers (huntouched ∘ Reservation.mem_lockOrder.1)

theorem find?_resolve_of_not_touched (hkeyed : store.Keyed) {id : Uuid} {resolution : Resolution}
    {now : Instant}
    (huntouched : product ∉ StoreCall.touched (.resolve id resolution now)
      (answer (.resolve id resolution now) store).1) :
    (answer (.resolve id resolution now) store).2.inventory.find? product =
      store.inventory.find? product := by
  simp only [answer] at huntouched ⊢
  rcases store.resolve_writes id resolution now with
    ⟨_, heq⟩ | ⟨_, _, _, heq⟩ | ⟨reservation, locked, edited, _, _, _, hlocked, hedited, heq⟩
  · rw [heq]
  · rw [heq]
  · rw [heq] at huntouched ⊢
    have hcovers := (covers_of_lockAll hkeyed hlocked).editLines
      (fun _ _ _ => WorkingCopy.product_of_resolveEdit) hedited
    exact find?_writeAll_of_not_mem hcovers (huntouched ∘ Reservation.mem_lockOrder.1)

theorem find?_answer_of_not_touched (hkeyed : store.Keyed) {call : StoreCall}
    (huntouched : product ∉ call.touched (answer call store).1) :
    (answer call store).2.inventory.find? product = store.inventory.find? product := by
  cases call with
  | create record =>
    simp only [answer, create] at huntouched ⊢
    split
    · rfl
    · rename_i habsent
      rw [if_neg habsent] at huntouched
      have hne : record.product ≠ product := fun heq =>
        huntouched (List.mem_singleton.2 heq.symm)
      rw [SortedMap.find?_insert, if_neg hne]
  | adjust changed adjustment now =>
    refine find?_change_of_ne hkeyed (fun _ _ hedit => (StockRecord.keeps_of_adjust hedit).1)
      fun updated hok heq => huntouched ?_
    change product ∈ StoreCall.touched (.adjust changed adjustment now)
      (store.perform (UnitOfWork.adjust changed adjustment now)).1
    rw [UnitOfWork.adjust, hok]
    exact List.mem_singleton.2 heq
  | setThreshold changed threshold now =>
    refine find?_change_of_ne hkeyed (fun _ _ hedit => by cases hedit; rfl)
      fun updated hok heq => huntouched ?_
    change product ∈ StoreCall.touched (.setThreshold changed threshold now)
      (store.perform (UnitOfWork.setThreshold changed threshold now)).1
    rw [UnitOfWork.setThreshold, hok]
    exact List.mem_singleton.2 heq
  | delete removed =>
    simp only [answer] at huntouched ⊢
    rw [perform_delete] at huntouched ⊢
    cases hfound : store.inventory.find? removed with
    | none => rfl
    | some record =>
      simp only [hfound] at huntouched ⊢
      split
      · rfl
      · rw [if_neg ‹_›] at huntouched
        have hne : removed ≠ product := fun heq => huntouched (List.mem_singleton.2 heq.symm)
        rw [SortedMap.find?_erase, if_neg hne]
  | reserve reservation => exact find?_reserve_of_not_touched hkeyed huntouched
  | resolve id resolution now => exact find?_resolve_of_not_touched hkeyed huntouched
  | recordProcessed command =>
    simp only [answer, recordProcessed]
    split <;> rfl
  | find _ | findMany _ | lowStock _ _ | findReservation _ | overdue _ _ | findProcessed _ => rfl

end MemoryStore

end Stockroom
