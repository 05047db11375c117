import Stockroom.Proofs.Service.Issued

/-!
# Stock held over sequences of operations

Whatever operations are carried out one after another, from an empty store
and at whatever times, the stock that the store holds back is the stock that
its pending reservations hold.
-/

namespace Stockroom.MemoryService

theorem reachable_after (settings : ServiceSettings) {service : MemoryService} {steps : List Step}
    (hreachable : service.store.Reachable) (hfresh : service.DrawsFresh settings steps) :
    (service.after settings steps).store.Reachable := by
  induction steps generalizing service with
  | nil => exact hreachable
  | cons step rest ih => exact ih (reachable_perform settings hfresh.1 hreachable) hfresh.2

/-- After any sequence of operations the reserved units of every record are the units that
pending reservations hold of its product, and every product they hold has a record. -/
theorem reserved_eq_heldUnits (settings : ServiceSettings) (lifetime : Option Nat)
    (clock : Instant) (supply : Nat → Uuid) (steps : List Step)
    (hfresh : (start lifetime clock supply).DrawsFresh settings steps) :
    let store := ((start lifetime clock supply).after settings steps).store
    (∀ product record, store.inventory.find? product = some record →
      record.reserved.value = store.heldUnits product) ∧
    ∀ id reservation, store.reservations.find? id = some reservation →
      reservation.isPending = true → ∀ product ∈ reservation.products,
        ∃ record, store.inventory.find? product = some record := by
  have hbalanced := (reachable_after settings MemoryStore.Reachable.empty hfresh).balanced
  exact ⟨hbalanced.counted, hbalanced.present⟩

/-- Two lines for one product hold three of its five units, and three units are reserved. -/
theorem reserved_eq_heldUnits_of_one_order :
    let product : ProductId := ⟨"cup", by decide⟩
    let moment : ClockReading := ⟨0, .epoch, .epoch⟩
    let steps : List Step := [⟨.create "cup" (some 5) none, fun _ => moment⟩,
      ⟨.reserve "order" [⟨"cup", 2⟩, ⟨"cup", 1⟩], fun _ => moment⟩]
    let service := (start none .epoch Uuid.ofNat).after ⟨⟨900000000000⟩⟩ steps
    (start none .epoch Uuid.ofNat).DrawsFresh ⟨⟨900000000000⟩⟩ steps ∧
      ∃ record, service.store.inventory.find? product = some record ∧
        record.reserved.value = 3 ∧ service.store.heldUnits product = 3 := by
  intro product moment steps service
  have hfresh : (start none .epoch Uuid.ofNat).DrawsFresh ⟨⟨900000000000⟩⟩ steps :=
    ⟨trivial, fun _ _ => rfl, trivial⟩
  have hreserved : (service.store.inventory.find? product).map (·.reserved.value) = some 3 := by
    decide +kernel
  have hcounted := (reserved_eq_heldUnits ⟨⟨900000000000⟩⟩ none .epoch Uuid.ofNat steps hfresh).1
  have hservice : (start none .epoch Uuid.ofNat).after ⟨⟨900000000000⟩⟩ steps = service := rfl
  rw [hservice] at hcounted
  obtain ⟨record, hfound, hvalue⟩ := Option.map_eq_some_iff.1 hreserved
  exact ⟨hfresh, record, hfound, hvalue, (hcounted product record hfound).symm.trans hvalue⟩

end Stockroom.MemoryService
