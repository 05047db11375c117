import Stockroom.Proofs.Service.Remembering
import Stockroom.Proofs.Service.Requested

/-!
# Checking stock

A bulk check takes the distinct products of its lines from the cache and from
one lookup, and puts the answers together again.  It answers every line as a
check of this line alone does, and both answer from what the store has
recorded.  The first line that breaks a rule fails both alike.
-/

namespace Stockroom

/-- The answer to a line that the records of a store give. -/
structure MemoryStore.Answers (store : MemoryStore) (line : CheckLine) (answer : Availability) :
    Prop where
  product : answer.product = line.product
  requested : (answer.requested : Int) = line.quantity.getD 1
  found : ∀ (product : ProductId) (record : StockRecord), product.text = line.product →
    store.inventory.find? product = some record →
      (answer.isAvailable = true ↔ answer.requested ≤ record.available.value) ∧
        answer.available = record.available.value
  missing : ∀ product : ProductId, product.text = line.product →
    store.inventory.find? product = none → answer.isAvailable = false ∧ answer.available = 0

theorem MemoryStore.answers_of_checkLine (store : MemoryStore) {line : CheckLine}
    {asked : ProductId × Quantity} (hline : Service.checkLine line = .ok asked) :
    store.Answers line
      (Availability.ofRecord? asked.1 asked.2 (store.inventory.find? asked.1)) := by
  obtain ⟨hproduct, hrequested⟩ := Service.eq_of_checkLine hline
  have hsame {product : ProductId} (htext : product.text = line.product) : product = asked.1 :=
    ProductId.ext (htext.trans hproduct.symm)
  cases hrecord : store.inventory.find? asked.1 with
  | some record =>
    have hfulfils : record.canFulfil asked.2 = true ↔ asked.2.value ≤ record.available.value :=
      StockRecord.canFulfil_iff
    refine ⟨hproduct, hrequested, ?_, ?_⟩
    · intro product found htext hfound
      rw [hsame htext, hrecord] at hfound
      cases hfound
      exact ⟨hfulfils, rfl⟩
    · intro product htext hnone
      rw [hsame htext, hrecord] at hnone
      cases hnone
  | none =>
    refine ⟨hproduct, hrequested, ?_, fun _ _ _ => ⟨rfl, rfl⟩⟩
    intro product found htext hfound
    rw [hsame htext, hrecord] at hfound
    cases hfound

namespace MemoryService

/-- After any sequence of operations, a bulk check returns what checks of its lines return, and
that is what the store has recorded; neither changes the store. -/
theorem bulkCheck_eq_checks (settings : ServiceSettings) (lifetime : Option Nat) (clock : Instant)
    (supply : Nat → Uuid) (steps : List Step) (lines : List CheckLine)
    (readings : Nat → ClockReading) :
    let service := (start lifetime clock supply).after settings steps
    let bulk := Step.perform settings ⟨.bulkCheck lines, readings⟩ service
    let single (line : CheckLine) (readings : Nat → ClockReading) :=
      Step.perform settings ⟨.check line.product line.quantity, readings⟩ service
    ((∀ line ∈ lines, line.asked.violation? = none) →
      ∃ answers, bulk.1 = .ok answers ∧
        List.Forall₂ (fun line answer => service.store.Answers line answer ∧
          ∀ readings, (single line readings).1 = .ok answer) lines answers) ∧
    (∀ before line after violation, lines = before ++ line :: after →
      (∀ earlier ∈ before, earlier.asked.violation? = none) →
      line.asked.violation? = some violation →
        bulk.1 = .error (.stock (.violation violation)) ∧
        ∀ readings, (single line readings).1 = .error (.stock (.violation violation))) ∧
    bulk.2.store = service.store ∧
    ∀ line readings, (single line readings).2.store = service.store := by
  intro service bulk single
  have hcurrent : service.Current := (current_start lifetime clock supply).after settings steps
  refine ⟨fun hvalid => ?_, ?_, Step.store_of_isLook settings service trivial,
    fun line readings => Step.store_of_isLook settings service trivial⟩
  · obtain ⟨checked, hchecked⟩ := exists_mapM fun line hline =>
      Service.exists_checkLine (hvalid line hline)
    refine ⟨_, hcurrent.outcome settings (.bulkCheck_of_ok hchecked), ?_⟩
    rw [List.forall₂_map_right_iff]
    refine (mapM_eq_ok_iff.1 hchecked).imp fun line asked hasked => ?_
    exact ⟨service.store.answers_of_checkLine hasked, fun readings =>
      hcurrent.outcome settings (.check_of_ok hasked)⟩
  · rintro before line after violation rfl hbefore hline
    have hfailed := Service.checkLine_of_violation hline
    have hearlier (earlier : CheckLine) (hmem : earlier ∈ before) :=
      Service.exists_checkLine (hbefore earlier hmem)
    have hlines : (before ++ line :: after).mapM Service.checkLine = .error violation :=
      mapM_of_first_error hearlier hfailed
    exact ⟨hcurrent.outcome settings (.bulkCheck_of_error hlines), fun readings =>
      hcurrent.outcome settings (.check_of_error hfailed)⟩

/-- Cups are cached and asked for twice, and there is no tea. -/
theorem bulkCheck_eq_checks_of_cached_cups :
    let moment : ClockReading := ⟨0, .epoch, .epoch⟩
    let settings : ServiceSettings := ⟨⟨900000000000⟩⟩
    let steps : List Step := [⟨.create "cup" (some 5) none, fun _ => moment⟩,
      ⟨.check "cup" none, fun _ => moment⟩]
    let lines : List CheckLine := [⟨"cup", some 9⟩, ⟨"tea", none⟩, ⟨"cup", none⟩]
    let service := (start (some 10) .epoch Uuid.ofNat).after settings steps
    (∀ line ∈ lines, line.asked.violation? = none) ∧
      ∃ answers,
        (Step.perform settings ⟨.bulkCheck lines, fun _ => moment⟩ service).1 = .ok answers ∧
        List.Forall₂ (fun line answer => service.store.Answers line answer ∧ ∀ readings,
          (Step.perform settings ⟨.check line.product line.quantity, readings⟩ service).1 =
            .ok answer) lines answers := by
  intro moment settings steps lines service
  have hvalid : ∀ line ∈ lines, line.asked.violation? = none := by decide +kernel
  exact ⟨hvalid, (bulkCheck_eq_checks settings (some 10) .epoch Uuid.ofNat steps lines
    fun _ => moment).1 hvalid⟩

end MemoryService

end Stockroom
