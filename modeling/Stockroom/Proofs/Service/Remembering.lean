import Stockroom.Proofs.Service.Caching
import Stockroom.Proofs.Service.Reading

/-!
# What the cache remembers between operations

Operations that do not overlap leave nothing old behind: whatever the cache
remembers of a product is what the store has recorded.  While an operation is
under way this holds of the products that it does not have to forget yet.  So
a read returns what the store has recorded, whichever products the cache
remembers and for however long.
-/

namespace Stockroom

namespace CacheStage

theorem owed_next_store (stage : CacheStage) {call : StoreCall} (answer : call.Answer) :
    (protocol.next stage (.store call) answer).owed = stage.owed ++ call.touched answer := by
  cases call with
  | find _ | findMany _ =>
    cases answer with
    | ok found => exact (List.append_nil _).symm
    | error error => rfl
  | _ => rfl

theorem generations_next_store (stage : CacheStage) {call : StoreCall} (answer : call.Answer) :
    (protocol.next stage (.store call) answer).generations = stage.generations := by
  cases call with
  | find _ | findMany _ => cases answer <;> rfl
  | _ => rfl

/-- What counts as read after a call was read by it, or before it if it has changed nothing. -/
theorem seen_next_store {stage : CacheStage} {store : MemoryStore} (hkeyed : store.Keyed)
    {call : StoreCall} {product : ProductId} {record : Option StockRecord}
    (hseen : (protocol.next stage (.store call) (MemoryStore.answer call store).1).seen product =
      some record) :
    (MemoryStore.answer call store).2 = store ∧
      (stage.seen product = some record ∨ record = store.inventory.find? product) := by
  cases call with
  | find sought =>
    refine ⟨rfl, ?_⟩
    change Function.update stage.seen sought _ product = _ at hseen
    rw [Function.update_apply] at hseen
    split at hseen
    · rename_i hsame
      cases hseen
      exact .inr (by rw [hsame])
    · exact .inl hseen
  | findMany products =>
    refine ⟨rfl, ?_⟩
    change (if product ∈ products then _ else _) = _ at hseen
    split at hseen
    · rename_i hmem
      cases hseen
      exact .inr (MemoryStore.find?_findMany hkeyed hmem)
    · exact .inl hseen
  | _ => cases hseen

/-- What an operation has read is what the store has recorded, and so is what an enabled cache
remembers of a product, unless the operation still has to forget it. -/
structure Describes (stage : CacheStage) (service : MemoryService) : Prop where
  keyed : service.store.Keyed
  seen : ∀ product record, stage.seen product = some record →
    record = service.store.inventory.find? product
  entry : service.around.cache.isEnabled = true →
    ∀ product entry, (service.around.cache.slot product).entry = some entry →
      entry.record = service.store.inventory.find? product ∨ product ∈ stage.owed

namespace Describes

variable {stage : CacheStage} {service : MemoryService}

theorem next_store (hdescribes : stage.Describes service) (call : StoreCall) :
    (protocol.next stage (.store call) (MemoryStore.answer call service.store).1).Describes
      { service with store := (MemoryStore.answer call service.store).2 } where
  keyed := hdescribes.keyed.answer call
  seen product record hseen := by
    obtain ⟨hstore, hread⟩ := seen_next_store hdescribes.keyed hseen
    rw [hstore]
    exact hread.elim (hdescribes.seen product record) id
  entry henabled product entry hentry := by
    rw [owed_next_store, List.mem_append]
    by_cases htouched : product ∈ call.touched (MemoryStore.answer call service.store).1
    · exact .inr (.inr htouched)
    · rw [MemoryStore.find?_answer_of_not_touched hdescribes.keyed htouched]
      exact (hdescribes.entry henabled product entry hentry).imp_right .inl

theorem next_aside (hdescribes : stage.Describes service) {request : LocalRequest}
    (hallowed : protocol.allows stage (.aside request)) :
    (protocol.next stage (.aside request) (Surroundings.answer request service.around).1).Describes
      { service with around := (Surroundings.answer request service.around).2 } := by
  obtain ⟨hkeyed, hseen, hentries⟩ := hdescribes
  cases request with
  | cached sought =>
    refine ⟨hkeyed, hseen, fun henabled product entry hentry => ?_⟩
    have hbefore := (StockCache.isEnabled_get ..).symm.trans henabled
    exact hentries hbefore product entry (StockCache.entry_of_get _ _ _ hentry)
  | generation sought =>
    refine ⟨hkeyed, fun product record hread => ?_, hentries⟩
    change Function.update stage.seen sought none product = some record at hread
    rw [Function.update_apply] at hread
    split at hread
    · cases hread
    · exact hseen product record hread
  | remember sought record generation =>
    refine ⟨hkeyed, hseen, fun henabled product entry hentry => ?_⟩
    have hbefore := (StockCache.isEnabled_put ..).symm.trans henabled
    rcases StockCache.entry_of_put _ _ _ hentry with hold | ⟨_, rfl, _, hrecord⟩
    · exact hentries hbefore product entry hold
    · rw [hrecord]
      exact .inl (hseen sought record hallowed.2)
  | forget sought =>
    refine ⟨hkeyed, hseen, fun henabled product entry hentry => ?_⟩
    have hbefore := (StockCache.isEnabled_invalidate ..).symm.trans henabled
    obtain ⟨hold, hother⟩ := StockCache.entry_of_invalidate _ _ _ hentry
    apply (hentries hbefore product entry hold).imp_right
    intro howed
    exact List.mem_filter.2 ⟨howed, decide_eq_true (hother hbefore).symm⟩
  | now | wallClock | freshId => exact ⟨hkeyed, hseen, hentries⟩

theorem next_answer (hdescribes : stage.Describes service) (reading : ClockReading)
    {request : ServiceRequest} (hallowed : protocol.allows stage request) :
    let answered := MemoryService.answer request (service.atReading reading)
    (protocol.next stage request answered.1).Describes answered.2 := by
  have hmoved : stage.Describes (service.atReading reading) :=
    ⟨hdescribes.keyed, hdescribes.seen, hdescribes.entry⟩
  cases request with
  | store call => exact hmoved.next_store call
  | aside request => exact hmoved.next_aside hallowed

end Describes

end CacheStage

/-- Between operations, what an enabled cache remembers is what the store has recorded. -/
def MemoryService.Current (service : MemoryService) : Prop :=
  CacheStage.start.Describes service

namespace MemoryService

theorem current_start (lifetime : Option Nat) (clock : Instant) (supply : Nat → Uuid) :
    (start lifetime clock supply).Current :=
  ⟨.empty, fun _ _ => nofun, fun _ _ _ => nofun⟩

theorem Current.perform {service : MemoryService} (hcurrent : service.Current)
    (settings : ServiceSettings) (step : Step) : (step.perform settings service).2.Current := by
  have hkeeps (stage : CacheStage) (state : MemoryService × Nat) (request : ServiceRequest)
      (hdescribes : stage.Describes state.1)
      (hallowed : CacheStage.protocol.allows stage request) :
      let answered := answerTimed step.readings request state
      True ∧ (CacheStage.protocol.next stage request answered.1).Describes answered.2.1 :=
    ⟨trivial, hdescribes.next_answer _ hallowed⟩
  have hstart : CacheStage.start.Describes (service, 0).1 := hcurrent
  obtain ⟨last, hpaid, hlast⟩ := (step.operation.repays settings).run.run hkeeps hstart
  refine ⟨hlast.keyed, fun _ _ => nofun, fun henabled product entry hentry => ?_⟩
  apply (hlast.entry henabled product entry hentry).imp_right
  rw [hpaid]
  exact id

theorem Current.after {service : MemoryService} (hcurrent : service.Current)
    (settings : ServiceSettings) (steps : List Step) : (service.after settings steps).Current := by
  induction steps generalizing service with
  | nil => exact hcurrent
  | cons step rest ih => exact ih (hcurrent.perform settings step)

end MemoryService

/-- The answers to what a read asks are those of the store, and leave nothing to be forgotten. -/
theorem CacheStage.Describes.reads {stage : CacheStage} {service : MemoryService}
    (hdescribes : stage.Describes service) (howed : stage.owed = []) (moment : ClockReading)
    {request : ServiceRequest}
    (hallowed : (reading service.store.inventory.find?).allows () request) :
    let answered := MemoryService.answer request (service.atReading moment)
    (reading service.store.inventory.find?).expects () request answered.1 ∧
      (protocol.next stage request answered.1).owed = [] ∧
      answered.2.store = service.store := by
  cases request with
  | store call =>
    cases call with
    | find product => exact ⟨rfl, howed, rfl⟩
    | findMany products =>
      have hfound (product : ProductId) (hmem : product ∈ products) :
          (service.store.findMany products).reverse.find? (·.product == product) =
            service.store.inventory.find? product :=
        MemoryStore.find?_findMany hdescribes.keyed hmem
      exact ⟨⟨_, rfl, hfound⟩, howed, rfl⟩
    | _ => cases hallowed
  | aside request =>
    cases request with
    | cached product =>
      refine ⟨fun record hfound => ?_, howed, rfl⟩
      obtain ⟨entry, hentry, rfl⟩ := StockCache.entry_of_found _ _ hfound
      have henabled : service.around.cache.isEnabled = true := by
        by_contra hdisabled
        change (service.around.cache.get product moment.ticks).1 = some entry.record at hfound
        rw [StockCache.get_of_disabled (Bool.eq_false_iff.2 hdisabled)] at hfound
        cases hfound
      apply (hdescribes.entry henabled product entry hentry).resolve_right
      rw [howed]
      exact List.not_mem_nil
    | generation product => exact ⟨trivial, howed, rfl⟩
    | remember product record generation => exact ⟨trivial, howed, rfl⟩
    | _ => cases hallowed

/-- Between operations, a read returns what it would read in the store. -/
theorem MemoryService.Current.outcome {service : MemoryService} (hcurrent : service.Current)
    (settings : ServiceSettings) {step : Step} {outcome : Except CallFailure step.operation.Value}
    (hreads : (step.operation.call settings).Reads service.store.inventory.find? outcome) :
    (step.perform settings service).1 = outcome := by
  let recorded := service.store.inventory.find?
  -- What is read depends on what the cache remembers, so both are followed side by side.
  have hkeeps (stage : CacheStage × Unit) (state : MemoryService × Nat) (request : ServiceRequest)
      (hstate : stage.1.Describes state.1 ∧ stage.1.owed = [] ∧ state.1.store = service.store)
      (hallowed : (CacheStage.protocol.both (reading recorded)).allows stage request) :
      (CacheStage.protocol.both (reading recorded)).expects stage request
          (answerTimed step.readings request state).1 ∧
        let next := (CacheStage.protocol.both (reading recorded)).next stage request
          (answerTimed step.readings request state).1
        let last := (answerTimed step.readings request state).2
        next.1.Describes last.1 ∧ next.1.owed = [] ∧ last.1.store = service.store := by
    obtain ⟨hdescribes, howed, hstore⟩ := hstate
    have hread : (reading state.1.store.inventory.find?).allows () request := hstore ▸ hallowed.2
    obtain ⟨hexpected, hpaid, hkept⟩ :=
      hdescribes.reads howed (step.readings state.2) hread
    rw [hstore] at hexpected
    exact ⟨⟨trivial, hexpected⟩, hdescribes.next_answer _ hallowed.1, hpaid, hkept.trans hstore⟩
  have hstart : CacheStage.start.Describes (service, 0).1 ∧ CacheStage.start.owed = [] ∧
      (service, 0).1.store = service.store := ⟨hcurrent, rfl, rfl⟩
  obtain ⟨_, hlast, _⟩ :=
    ((step.operation.repays settings).run.both hreads.run).run hkeeps hstart
  exact hlast.2

end Stockroom
