import Stockroom.Proofs.Service.Accounting
import Stockroom.Proofs.Service.Calls
import Stockroom.Proofs.Store.Confirming
import Stockroom.Proofs.Store.Resolving

/-!
# Confirming a reservation

Whether a stored reservation can be confirmed depends on its status and, while
it is pending, on its deadline, and on nothing else: its stock is there to be
taken, however many other reservations hold stock of the same products and
whatever has become of these products before.
-/

namespace Stockroom.MemoryService

/-- What asking for the confirmation of a reservation returns as of a point in time. -/
def Confirms (reservation : Reservation) (now : Instant) (outcome : Except CallFailure Outcome) :
    Prop :=
  match reservation.status with
  | .pending =>
    if reservation.expiresAt < now then
      ∃ error, outcome = .error (.stock error) ∧ error.kind = .conflict ∧
        error.message = "Cannot confirm expired reservation"
    else outcome = .ok ⟨.applied, reservation.resolved .confirm now⟩
  | .confirmed => outcome = .ok ⟨.alreadyResolved, reservation⟩
  | .released | .expired => ∃ error, outcome = .error (.stock error) ∧ error.kind = .conflict

/-- After any sequence of operations, confirming a stored reservation succeeds if it is pending and
its deadline has not passed or if it is confirmed already, and is a conflict otherwise. -/
theorem confirm_decided_by_reservation (settings : ServiceSettings) (lifetime : Option Nat)
    (clock : Instant) (supply : Nat → Uuid) (steps : List Step)
    (hfresh : (start lifetime clock supply).DrawsFresh settings steps) :
    let service := (start lifetime clock supply).after settings steps
    ∀ id reservation, service.store.reservations.find? id = some reservation → ∀ readings,
      Confirms reservation (readings 0).clock
        (Step.perform settings ⟨.confirm id, readings⟩ service).1 := by
  intro service id reservation hfound readings
  have hbalanced := (reachable_after settings MemoryStore.Reachable.empty hfresh).balanced
  have houtcome := (Step.confirm_ends settings service readings id).outcome
  rw [houtcome, Confirms]
  cases hpending : reservation.isPending with
  | true =>
    rw [MemoryStore.answer_confirm hbalanced hfound hpending,
      Reservation.status_eq_pending hpending]
    dsimp only
    split
    · rename_i hexpired
      rw [Reservation.isExpired, if_pos (decide_eq_true hexpired)]
      exact ⟨_, rfl, rfl, rfl⟩
    · rename_i hdue
      rw [Reservation.isExpired, if_neg (by simpa using hdue)]
      rfl
  | false =>
    rw [MemoryStore.answer_resolve_of_terminal hfound hpending]
    cases hstatus : reservation.status with
    | pending => simp [Reservation.isPending, hstatus] at hpending
    | confirmed => rfl
    | released | expired => exact ⟨_, rfl, rfl⟩

/-- Cups are deleted and created again, then held by two orders: each can be confirmed. -/
theorem confirm_decided_by_reservation_of_two_orders :
    let moment : ClockReading := ⟨0, .epoch, .epoch⟩
    let settings : ServiceSettings := ⟨⟨900000000000⟩⟩
    let steps : List Step := [⟨.create "cup" (some 2) none, fun _ => moment⟩,
      ⟨.delete "cup", fun _ => moment⟩, ⟨.create "cup" (some 5) none, fun _ => moment⟩,
      ⟨.reserve "first" [⟨"cup", 2⟩], fun _ => moment⟩,
      ⟨.reserve "second" [⟨"cup", 3⟩], fun _ => moment⟩]
    let service := (start none .epoch Uuid.ofNat).after settings steps
    (start none .epoch Uuid.ofNat).DrawsFresh settings steps ∧
      ∀ id ∈ [Uuid.ofNat 2, Uuid.ofNat 3], ∃ reservation,
        service.store.reservations.find? id = some reservation ∧ reservation.status = .pending ∧
        Confirms reservation Instant.epoch
          (Step.perform settings ⟨.confirm id, fun _ => moment⟩ service).1 := by
  intro moment settings steps service
  have hfresh : (start none .epoch Uuid.ofNat).DrawsFresh settings steps :=
    drawsFresh_of_findsFree settings (by decide +kernel)
  have hstored : ∀ id ∈ [Uuid.ofNat 2, Uuid.ofNat 3],
      (service.store.reservations.find? id).map Reservation.status = some .pending := by
    decide +kernel
  have hdecided := confirm_decided_by_reservation settings none .epoch Uuid.ofNat steps hfresh
  rw [show (start none .epoch Uuid.ofNat).after settings steps = service from rfl] at hdecided
  refine ⟨hfresh, fun id hid => ?_⟩
  obtain ⟨reservation, hfound, hstatus⟩ := Option.map_eq_some_iff.1 (hstored id hid)
  exact ⟨reservation, hfound, hstatus, hdecided id reservation hfound fun _ => moment⟩

end Stockroom.MemoryService
