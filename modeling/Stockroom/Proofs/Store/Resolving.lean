import Stockroom.Proofs.Store.Balance

/-!
# Resolving reservations

What a store in memory answers to a call that confirms, releases or expires a
reservation, from what it holds.  No other call touches a reservation.
-/

namespace Stockroom

namespace MemoryStore

variable {store : MemoryStore} {id : Uuid} {reservation : Reservation}

/-- A call keeps every reservation whose resolution it does not ask for. -/
theorem find?_answer_of_not_resolve (hbalanced : store.Balanced) {call : StoreCall}
    (hissued : call.IsIssued store) (hother : ∀ resolution now, call ≠ .resolve id resolution now)
    (hfound : store.reservations.find? id = some reservation) :
    (answer call store).2.reservations.find? id = some reservation := by
  have hchange (product : ProductId) (edit : StockRecord → Except Violation StockRecord) :
      (store.perform (UnitOfWork.change product edit)).2.reservations = store.reservations := by
    rcases store.change_cases product edit with ⟨_, heq⟩ | ⟨_, _, _, _, heq⟩ <;> rw [heq]
  cases call with
  | create record =>
    simp only [answer, create]
    split <;> exact hfound
  | adjust product adjustment now => exact (congrArg (·.find? id) (hchange _ _)).trans hfound
  | setThreshold product threshold now => exact (congrArg (·.find? id) (hchange _ _)).trans hfound
  | delete product =>
    simp only [answer]
    rw [perform_delete]
    split
    · exact hfound
    · split <;> exact hfound
  | reserve taken =>
    rcases reserve_cases hbalanced.toKeyed hissued.1.consolidated.distinct with
      ⟨error, heq⟩ | ⟨after, heq, hholds⟩
    · simp only [answer, heq]
      exact hfound
    · have hne : taken.id ≠ id := fun hsame => by simp [← hsame, hissued.2] at hfound
      simp only [answer, heq]
      rw [hholds.reservations, SortedMap.find?_insert, if_neg hne]
      exact hfound
  | resolve sought resolution now =>
    rcases resolve_cases hbalanced.toKeyed sought resolution now
        (fun one hone => (hbalanced.consolidated sought one hone).distinct) with
      ⟨error, heq⟩ | ⟨_, _, _, heq⟩ | ⟨settled, after, hsettled, _, _, heq, hsettles⟩
    · simp only [answer, heq]
      exact hfound
    · simp only [answer, heq]
      exact hfound
    · have hne : settled.id ≠ id := fun hsame => hother resolution now (by
        rw [← hsame, hbalanced.reservations sought settled hsettled])
      simp only [answer, heq]
      rw [hsettles.reservations, SortedMap.find?_insert, if_neg hne]
      exact hfound
  | recordProcessed command =>
    simp only [answer, recordProcessed]
    split <;> exact hfound
  | find _ | findMany _ | lowStock _ _ | findReservation _ | overdue _ _ | findProcessed _ =>
    exact hfound

/-- What is asked of a resolved reservation is answered without a change. -/
theorem answer_resolve_of_terminal (hfound : store.reservations.find? id = some reservation)
    (hterminal : reservation.isPending = false) (resolution : Resolution) (now : Instant) :
    answer (.resolve id resolution now) store =
      (if resolution = .confirm ∧ reservation.status ≠ .confirmed then
        .error (.violation (.invalidTransition reservation.status .confirm))
      else .ok ⟨.alreadyResolved, reservation⟩, store) := by
  simp only [answer]
  rw [perform_resolve, hfound]
  simp only [hterminal, Bool.false_eq_true, if_false]
  rw [Reservation.resolve_terminal hterminal]
  split <;> rfl

/-- A pending reservation either stays as it is, or is resolved as it was asked for and in time. -/
theorem answer_resolve_of_pending (hbalanced : store.Balanced)
    (hfound : store.reservations.find? id = some reservation)
    (hpending : reservation.isPending = true) (resolution : Resolution) (now : Instant) :
    (∃ error, answer (.resolve id resolution now) store = (.error error, store)) ∨
      reservation.permits resolution now = true ∧
        (answer (.resolve id resolution now) store).1 =
          .ok ⟨.applied, reservation.resolved resolution now⟩ ∧
        (answer (.resolve id resolution now) store).2.reservations.find? id =
          some (reservation.resolved resolution now) := by
  rcases resolve_cases hbalanced.toKeyed id resolution now
      (fun one hone => (hbalanced.consolidated id one hone).distinct) with
    hfailed | ⟨other, hother, hterminal, _⟩ | ⟨other, after, hother, _, hpermits, heq, hsettles⟩
  · exact .inl hfailed
  · rw [Option.some.inj (hother.symm.trans hfound), hpending] at hterminal
    cases hterminal
  · obtain rfl : other = reservation := Option.some.inj (hother.symm.trans hfound)
    refine .inr ⟨hpermits, ?_, ?_⟩
    · simp only [answer, heq]
    · simp only [answer, heq]
      rw [hsettles.reservations, hbalanced.reservations id other hfound, SortedMap.find?_insert,
        if_pos rfl]

end MemoryStore

end Stockroom
