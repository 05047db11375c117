import Stockroom.Proofs.Service.Lifecycle
import Stockroom.Proofs.Store.GivingBack

/-!
# Giving reservations back

Releasing a pending reservation, or expiring it after its deadline, gives its
units back if the available stock of each of its products has room for them.
Stock that was added or set meanwhile can have taken this room: then the
reservation stays pending and its units stay held.
-/

namespace Stockroom.MemoryService

/-- After any sequence of operations, a pending reservation is given back exactly if there is room
for its units; where there is none, the call fails on the sum that is too large. -/
theorem given_back_iff_hasRoom (settings : ServiceSettings) (lifetime : Option Nat)
    (clock : Instant) (supply : Nat → Uuid) (steps : List Step)
    (hfresh : (start lifetime clock supply).DrawsFresh settings steps) :
    let service := (start lifetime clock supply).after settings steps
    ∀ id reservation, service.store.reservations.find? id = some reservation →
      reservation.isPending = true →
      ∀ step asked, MadeCall.asked? settings id ⟨service, step⟩ = some asked →
        asked.resolution ≠ .confirm →
        (asked.resolution = .expire → reservation.expiresAt < asked.now) →
        (asked.isApplied = true ↔ service.store.HasRoom reservation) ∧
        (asked.isApplied = false → ∃ units : Nat, Quantity.maximum < units ∧
          asked.outcome = .error (.stock (.violation (.quantityOutOfRange units))) ∧
          (step.perform settings service).2.store = service.store) := by
  intro service id reservation hfound hpending step asked hasked hreturned hdue
  have hbalanced := (reachable_after settings MemoryStore.Reachable.empty hfresh).balanced
  have hpermits : reservation.permits asked.resolution asked.now = true := by
    cases hresolution : asked.resolution with
    | confirm => exact absurd hresolution hreturned
    | release => rfl
    | expire => exact decide_eq_true (hdue hresolution)
  obtain ⟨houtcome, hstore⟩ := MadeCall.of_asked hasked
  rcases MemoryStore.answer_giveBack hbalanced hfound hpending hreturned hpermits with
    ⟨hroom, hanswer⟩ | ⟨hfull, units, hlarge, hanswer⟩
  · have happlied : asked.isApplied = true := by
      rw [Asked.isApplied, houtcome, hanswer]
      rfl
    refine ⟨iff_of_true happlied hroom, fun hrefused => ?_⟩
    rw [happlied] at hrefused
    cases hrefused
  · rw [hanswer] at houtcome hstore
    have hrefused : asked.isApplied = false := by
      rw [Asked.isApplied, houtcome]
      rfl
    refine ⟨iff_of_false ?_ hfull, fun _ => ⟨units, hlarge, houtcome, hstore⟩⟩
    rw [hrefused]
    exact Bool.false_ne_true

/-- A release gives three units back to a record that has two of its five left, where there is room
for them. -/
theorem given_back_iff_hasRoom_of_one_order :
    let moment : ClockReading := ⟨0, .epoch, .epoch⟩
    let settings : ServiceSettings := ⟨⟨900000000000⟩⟩
    let steps : List Step := [⟨.create "cup" (some 5) none, fun _ => moment⟩,
      ⟨.reserve "order" [⟨"cup", 3⟩], fun _ => moment⟩]
    let release : Step := ⟨.release (Uuid.ofNat 1), fun _ => moment⟩
    let service := (start none .epoch Uuid.ofNat).after settings steps
    (start none .epoch Uuid.ofNat).DrawsFresh settings steps ∧
      ∃ reservation asked,
        service.store.reservations.find? (Uuid.ofNat 1) = some reservation ∧
        reservation.isPending = true ∧
        MadeCall.asked? settings (Uuid.ofNat 1) ⟨service, release⟩ = some asked ∧
        asked.resolution ≠ .confirm ∧
        (asked.resolution = .expire → reservation.expiresAt < asked.now) ∧
        asked.isApplied = true ∧ service.store.HasRoom reservation := by
  intro moment settings steps release service
  have hfresh : (start none .epoch Uuid.ofNat).DrawsFresh settings steps :=
    ⟨trivial, fun _ _ => rfl, trivial⟩
  have hstored : (service.store.reservations.find? (Uuid.ofNat 1)).map (·.isPending) =
      some true := by decide +kernel
  have hreleased : (MadeCall.asked? settings (Uuid.ofNat 1) ⟨service, release⟩).map
      (fun asked => (asked.resolution, asked.isApplied)) = some (.release, true) := by
    decide +kernel
  obtain ⟨reservation, hfound, hpending⟩ := Option.map_eq_some_iff.1 hstored
  obtain ⟨asked, hasked, hanswer⟩ := Option.map_eq_some_iff.1 hreleased
  obtain ⟨hresolution, happlied⟩ := Prod.mk.inj hanswer
  have hreturned : asked.resolution ≠ .confirm := by
    rw [hresolution]
    decide
  have hdue : asked.resolution = .expire → reservation.expiresAt < asked.now := by
    rw [hresolution]
    exact nofun
  have hgiven := given_back_iff_hasRoom settings none .epoch Uuid.ofNat steps hfresh
  rw [show (start none .epoch Uuid.ofNat).after settings steps = service from rfl] at hgiven
  have hroom := (hgiven (Uuid.ofNat 1) reservation hfound hpending release asked hasked
    hreturned hdue).1.1 happlied
  exact ⟨hfresh, reservation, asked, hfound, hpending, hasked, hreturned, hdue, happlied, hroom⟩

/-- One cup is held, then the stock of cups is set to the largest quantity: the cup cannot be
given back, and stays held. -/
theorem release_fails_of_full_stock :
    let moment : ClockReading := ⟨0, .epoch, .epoch⟩
    let settings : ServiceSettings := ⟨⟨900000000000⟩⟩
    let steps : List Step := [⟨.create "cup" (some 1) none, fun _ => moment⟩,
      ⟨.reserve "order" [⟨"cup", 1⟩], fun _ => moment⟩,
      ⟨.adjust "cup" "SET" 2147483647, fun _ => moment⟩]
    let service := (start none .epoch Uuid.ofNat).after settings steps
    let released := Step.perform settings ⟨.release (Uuid.ofNat 1), fun _ => moment⟩ service
    (start none .epoch Uuid.ofNat).DrawsFresh settings steps ∧
      (service.store.reservations.find? (Uuid.ofNat 1)).map (·.isPending) = some true ∧
      (match released.1 with
        | .ok _ => none
        | .error (.stock error) => some error
        | .error .deadlineOutOfRange => none) =
          some (.violation (.quantityOutOfRange 2147483648)) ∧
      (released.2.store.reservations.find? (Uuid.ofNat 1)).map (·.isPending) = some true := by
  intro moment settings steps service released
  exact ⟨⟨trivial, fun _ _ => rfl, trivial, trivial⟩, by decide +kernel, by decide +kernel,
    by decide +kernel⟩

end Stockroom.MemoryService
