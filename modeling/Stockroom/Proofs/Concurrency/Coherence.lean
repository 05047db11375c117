import Stockroom.Proofs.Concurrency.CachedCalls
import Stockroom.Proofs.Service.Remembering

/-!
# Coherence of the cache

However the requests of concurrent operations are interleaved, what the cache
remembers of a product is what the store has recorded, as long as nobody who
changed the product has yet to make the cache forget it.
-/

namespace Stockroom

open CachedCalls (owedAfter forgottenAfter takenAfter changed)

variable {count : Nat} {operations : Fin count → Operation}

namespace CachedCalls

variable (calls next : CachedCalls operations)

/-- Such a record is what the store has recorded, or somebody has yet to forget the product. -/
def Excused (product : ProductId) (record : Option StockRecord) : Prop :=
  record = calls.recorded product ∨ ∃ caller, product ∈ calls.owed caller

/-- What a caller has come to know, and still owes, as its next steps take it to be. -/
structure CallerAt (caller : Fin count) (stage : CacheStage) : Prop where
  follows : (calls.program caller).Follows CacheStage.protocol (fun _ last => last.owed = []) stage
  owed : ∀ product ∈ calls.owed caller, product ∈ stage.owed
  taken : ∀ product, calls.taken caller product ≤ calls.forgotten product
  generations : calls.cache.isEnabled → ∀ product generation,
    stage.generations product = some generation →
      generation = UInt64.ofNat (calls.taken caller product)
  seen : ∀ product record, stage.seen product = some record →
    calls.Excused product record ∨ calls.taken caller product < calls.forgotten product

/-- The invariant of calls that share a cache. -/
structure Coherent : Prop where
  keyed : calls.service.store.Keyed
  generation : calls.cache.isEnabled → ∀ product,
    calls.cache.generation product = UInt64.ofNat (calls.forgotten product)
  entry : ∀ product entry, (calls.cache.slot product).entry = some entry →
    calls.cache.isEnabled ∧ calls.Excused product entry.record
  caller : ∀ caller, ∃ stage, calls.CallerAt caller stage

/-- How a step of one caller looks to the others. -/
structure Advanced (caller : Fin count) : Prop where
  enabled : next.cache.isEnabled = calls.cache.isEnabled
  forgotten : ∀ product, calls.forgotten product ≤ next.forgotten product
  excused : ∀ product record, calls.Excused product record →
    next.Excused product record ∨ calls.forgotten product < next.forgotten product
  program : ∀ other ≠ caller, next.program other = calls.program other
  owed : ∀ other ≠ caller, next.owed other = calls.owed other
  taken : ∀ other ≠ caller, next.taken other = calls.taken other

variable {calls next}

/-- What was excused, or read before a product was forgotten, is so after a step. -/
theorem Advanced.seen {caller other : Fin count} (hadvanced : Advanced calls next caller)
    {product : ProductId} {record : Option StockRecord}
    (htaken : calls.taken other product ≤ calls.forgotten product)
    (hseen : calls.Excused product record ∨
      calls.taken other product < calls.forgotten product) :
    next.Excused product record ∨ calls.taken other product < next.forgotten product := by
  rcases hseen with hexcused | hlater
  · rcases hadvanced.excused product record hexcused with hexcused | hforgotten
    · exact .inl hexcused
    · exact .inr (htaken.trans_lt hforgotten)
  · exact .inr (hlater.trans_le (hadvanced.forgotten product))

/-- What other callers know is not affected by a step. -/
theorem CallerAt.of_advanced {caller other : Fin count} {stage : CacheStage}
    (hother : calls.CallerAt other stage) (hadvanced : Advanced calls next caller)
    (hne : other ≠ caller) : next.CallerAt other stage where
  follows := by
    rw [hadvanced.program other hne]
    exact hother.follows
  owed := by
    rw [hadvanced.owed other hne]
    exact hother.owed
  taken product := by
    rw [hadvanced.taken other hne]
    exact (hother.taken product).trans (hadvanced.forgotten product)
  generations := by
    rw [hadvanced.enabled, hadvanced.taken other hne]
    exact hother.generations
  seen product record hseen := by
    rw [hadvanced.taken other hne]
    exact hadvanced.seen (hother.taken product) (hother.seen product record hseen)

section Answered

variable {caller : Fin count} {request : ServiceRequest}
  {resume : request.Answer → ServiceProgram (Except CallFailure (operations caller).Value)}

theorem mem_owed_answered {other : Fin count} {product : ProductId}
    (howed : product ∈ calls.owed other) :
    product ∈ (calls.answered caller request resume).owed other ∨
      request = .aside (.forget product) := by
  change product ∈ Function.update calls.owed caller _ other ∨ _
  by_cases hother : other = caller
  · subst hother
    rw [Function.update_self]
    cases request with
    | store call => exact .inl (.inl howed)
    | aside request =>
      cases request with
      | forget forgotten =>
        by_cases hsame : product = forgotten
        · exact .inr (by rw [hsame])
        · exact .inl ⟨howed, hsame⟩
      | _ => exact .inl howed
  · rw [Function.update_of_ne hother]
    exact .inl howed

theorem recorded_answered (product : ProductId) :
    (calls.answered caller request resume).recorded product = calls.recorded product ∨
      product ∈ (calls.answered caller request resume).owed caller := by
  by_cases hsame : (calls.answered caller request resume).recorded product = calls.recorded product
  · exact .inl hsame
  · refine .inr ?_
    change product ∈ Function.update calls.owed caller _ caller
    rw [Function.update_self]
    cases request with
    | store call => exact .inr hsame
    | aside request => exact absurd rfl hsame

theorem excused_answered {product : ProductId} {record : Option StockRecord}
    (hexcused : calls.Excused product record) :
    (calls.answered caller request resume).Excused product record ∨
      request = .aside (.forget product) := by
  rcases hexcused with hrecorded | ⟨other, howed⟩
  · rw [hrecorded]
    rcases recorded_answered product with hsame | howed
    · exact .inl (.inl hsame.symm)
    · exact .inl (.inr ⟨caller, howed⟩)
  · exact (mem_owed_answered howed).imp_left fun howed => .inr ⟨other, howed⟩

theorem forgotten_le_answered (product : ProductId) :
    calls.forgotten product ≤ (calls.answered caller request resume).forgotten product := by
  change _ ≤ forgottenAfter request calls.forgotten product
  rcases forgottenAfter_eq_or request calls.forgotten product with hsame | honce
  · exact hsame.ge
  · exact (Nat.le_succ _).trans honce.ge

theorem isEnabled_answered :
    (calls.answered caller request resume).cache.isEnabled = calls.cache.isEnabled := by
  cases request with
  | store call => rfl
  | aside request =>
    cases request with
    | cached product => exact StockCache.isEnabled_get ..
    | remember product record generation => exact StockCache.isEnabled_put ..
    | forget product => exact StockCache.isEnabled_invalidate ..
    | _ => rfl

theorem advanced_answered (calls : CachedCalls operations) (caller : Fin count)
    (request : ServiceRequest)
    (resume : request.Answer → ServiceProgram (Except CallFailure (operations caller).Value)) :
    Advanced calls (calls.answered caller request resume) caller where
  enabled := isEnabled_answered
  forgotten := forgotten_le_answered
  excused product record hexcused := by
    have hcases : (calls.answered caller request resume).Excused product record ∨
        request = .aside (.forget product) := excused_answered hexcused
    rcases hcases with hexcused | rfl
    · exact .inl hexcused
    · refine .inr ?_
      change calls.forgotten product < Function.update calls.forgotten product _ product
      rw [Function.update_self]
      exact Nat.lt_succ_self _
  program other hne := Function.update_of_ne hne ..
  owed other hne := Function.update_of_ne hne ..
  taken other hne := Function.update_of_ne hne ..

/-- What a caller owes after a request is owed at the stage that follows. -/
theorem mem_owed_next (hkeyed : calls.service.store.Keyed) {stage : CacheStage}
    (howes : ∀ product ∈ calls.owed caller, product ∈ stage.owed) {product : ProductId}
    (howed : product ∈ (calls.answered caller request resume).owed caller) :
    product ∈ (CacheStage.protocol.next stage request
      (MemoryService.answer request calls.service).1).owed := by
  change product ∈ Function.update calls.owed caller _ caller at howed
  rw [Function.update_self] at howed
  cases request with
  | store call =>
    rw [CacheStage.owed_next_store]
    rcases howed with howed | hchanged
    · exact List.mem_append_left _ (howes product howed)
    · refine List.mem_append_right _ ?_
      by_contra huntouched
      exact hchanged (MemoryStore.find?_answer_of_not_touched hkeyed huntouched)
  | aside request =>
    cases request with
    | forget forgotten => exact List.mem_filter.2 ⟨howes product howed.1, decide_eq_true howed.2⟩
    | _ => exact howes product howed

/-- A generation that a caller has taken is none of a later time. -/
theorem takenAfter_le {product : ProductId}
    (htaken : calls.taken caller product ≤ calls.forgotten product) :
    takenAfter request calls.forgotten (calls.taken caller) product ≤ calls.forgotten product := by
  cases request with
  | store call => exact htaken
  | aside request =>
    cases request with
    | generation sought =>
      rw [takenAfter, Function.update_apply]
      split
      · rename_i hsame
        rw [hsame]
      · exact htaken
    | _ => exact htaken

/-- A generation known at the stage that follows is the one of the time it was taken. -/
theorem generation_next
    (hgeneration : ∀ product,
      calls.cache.generation product = UInt64.ofNat (calls.forgotten product))
    {stage : CacheStage} {product : ProductId}
    (hknown : ∀ generation, stage.generations product = some generation →
      generation = UInt64.ofNat (calls.taken caller product))
    {generation : UInt64}
    (htaken : (CacheStage.protocol.next stage request
      (MemoryService.answer request calls.service).1).generations product = some generation) :
    generation =
      UInt64.ofNat (takenAfter request calls.forgotten (calls.taken caller) product) := by
  cases request with
  | store call =>
    rw [CacheStage.generations_next_store] at htaken
    exact hknown generation htaken
  | aside request =>
    cases request with
    | generation sought =>
      change Function.update stage.generations sought _ product = _ at htaken
      rw [takenAfter, Function.update_apply]
      rw [Function.update_apply] at htaken
      split
      · rename_i hsame
        rw [if_pos hsame] at htaken
        cases htaken
        exact hgeneration sought
      · rename_i hne
        rw [if_neg hne] at htaken
        exact hknown generation htaken
    | _ => exact hknown generation htaken

/-- What was seen by the stage that follows was excused before the request, which took no
generation of the product. -/
theorem excused_of_seen_next (hkeyed : calls.service.store.Keyed) {stage : CacheStage}
    {product : ProductId} {record : Option StockRecord}
    (hknown : stage.seen product = some record →
      calls.Excused product record ∨ calls.taken caller product < calls.forgotten product)
    (hseen : (CacheStage.protocol.next stage request
      (MemoryService.answer request calls.service).1).seen product = some record) :
    (calls.Excused product record ∨ calls.taken caller product < calls.forgotten product) ∧
      takenAfter request calls.forgotten (calls.taken caller) product =
        calls.taken caller product := by
  cases request with
  | store call =>
    refine ⟨?_, rfl⟩
    -- The request may have read the record itself.
    rcases (CacheStage.seen_next_store hkeyed hseen).2 with hseen | hrecorded
    · exact hknown hseen
    · exact .inl (.inl hrecorded)
  | aside request =>
    cases request with
    | generation sought =>
      change Function.update stage.seen sought _ product = _ at hseen
      rw [Function.update_apply] at hseen
      split at hseen
      · cases hseen
      · rename_i hne
        exact ⟨hknown hseen, Function.update_of_ne hne ..⟩
    | _ => exact ⟨hknown hseen, rfl⟩

theorem taken_answered (product : ProductId) :
    (calls.answered caller request resume).taken caller product =
      takenAfter request calls.forgotten (calls.taken caller) product := by
  change Function.update calls.taken caller _ caller product = _
  rw [Function.update_self]

theorem callerAt_answered (hkeyed : calls.service.store.Keyed)
    (hgeneration : calls.cache.isEnabled → ∀ product,
      calls.cache.generation product = UInt64.ofNat (calls.forgotten product))
    {stage : CacheStage} (hcaller : calls.CallerAt caller stage)
    (hprogram : calls.program caller = .ask request resume) :
    (calls.answered caller request resume).CallerAt caller
      (CacheStage.protocol.next stage request (MemoryService.answer request calls.service).1) where
  follows := by
    have hfollows := hcaller.follows
    rw [hprogram] at hfollows
    change (Function.update calls.program caller _ caller).Follows ..
    rw [Function.update_self]
    exact hfollows.2 _ trivial
  owed _ howed := mem_owed_next hkeyed hcaller.owed howed
  taken product := by
    rw [taken_answered]
    exact (takenAfter_le (hcaller.taken product)).trans (forgotten_le_answered product)
  generations henabled product generation htaken := by
    rw [isEnabled_answered] at henabled
    rw [taken_answered]
    exact generation_next (hgeneration henabled) (hcaller.generations henabled product) htaken
  seen product record hseen := by
    obtain ⟨hbefore, hkept⟩ :=
      excused_of_seen_next hkeyed (hcaller.seen product record) hseen
    rw [taken_answered, hkept]
    exact (advanced_answered calls caller request resume).seen (hcaller.taken product) hbefore

theorem generation_answered (hgeneration : calls.cache.isEnabled → ∀ product,
      calls.cache.generation product = UInt64.ofNat (calls.forgotten product))
    (henabled : calls.cache.isEnabled) (product : ProductId) :
    (calls.answered caller request resume).cache.generation product =
      UInt64.ofNat ((calls.answered caller request resume).forgotten product) := by
  have hbefore := hgeneration henabled product
  cases request with
  | store call => exact hbefore
  | aside request =>
    cases request with
    | cached sought => exact (StockCache.generation_get ..).trans hbefore
    | remember sought record generation => exact (StockCache.generation_put ..).trans hbefore
    | forget forgotten =>
      change (calls.cache.invalidate forgotten).generation product =
        UInt64.ofNat (Function.update calls.forgotten forgotten _ product)
      rw [StockCache.generation_invalidate _ _ _ henabled, Function.update_apply]
      by_cases hsame : product = forgotten
      · rw [if_pos hsame.symm, if_pos hsame, hbefore, hsame, UInt64.ofNat_add]
        rfl
      · rw [if_neg (Ne.symm hsame), if_neg hsame, hbefore]
    | _ => exact hbefore

/-- Generations do not repeat within 2 ^ 64 invalidations. -/
theorem ofNat_ne_of_lt {earlier later : Nat} (hlater : earlier < later)
    (hbound : later < earlier + 2 ^ 64) : UInt64.ofNat later ≠ UInt64.ofNat earlier := by
  intro hsame
  rw [UInt64.ofNat_eq_iff_mod_eq_toNat, UInt64.toNat_ofNat'] at hsame
  omega

/-- Every entry after a request was there before, and its product was not forgotten, or it is
what the caller has just read and nobody has forgotten since. -/
theorem entry_answered (hcoherent : calls.Coherent)
    (hprogram : calls.program caller = .ask request resume) (hpaced : calls.Paced caller)
    {product : ProductId} {entry : CacheEntry}
    (hentry : ((calls.answered caller request resume).cache.slot product).entry = some entry) :
    calls.cache.isEnabled ∧ calls.Excused product entry.record ∧
      request ≠ .aside (.forget product) := by
  have hold (hbefore : (calls.cache.slot product).entry = some entry)
      (hkept : calls.cache.isEnabled → request ≠ .aside (.forget product)) :
      calls.cache.isEnabled ∧ calls.Excused product entry.record ∧
        request ≠ .aside (.forget product) := by
    obtain ⟨henabled, hexcused⟩ := hcoherent.entry product entry hbefore
    exact ⟨henabled, hexcused, hkept henabled⟩
  cases request with
  | store call => exact hold hentry fun _ => nofun
  | aside request =>
    cases request with
    | cached sought => exact hold (StockCache.entry_of_get _ _ _ hentry) fun _ => nofun
    | remember sought record generation =>
      rcases StockCache.entry_of_put _ _ _ hentry with hentry | ⟨henabled, rfl, hsame, hrecord⟩
      · exact hold hentry fun _ => nofun
      · refine ⟨henabled, ?_, nofun⟩
        obtain ⟨stage, hcaller⟩ := hcoherent.caller caller
        have hfollows := hcaller.follows
        rw [hprogram] at hfollows
        obtain ⟨htaken, hseen⟩ := hfollows.1
        rw [hrecord]
        refine (hcaller.seen sought record hseen).resolve_right fun hlater => ?_
        rw [hcaller.generations henabled sought generation htaken] at hsame
        exact ofNat_ne_of_lt hlater (hpaced sought record generation resume hprogram)
          ((hcoherent.generation henabled sought).symm.trans hsame)
    | forget forgotten =>
      obtain ⟨hbefore, hother⟩ := StockCache.entry_of_invalidate _ _ _ hentry
      refine hold hbefore fun henabled hsame => hother henabled ?_
      cases hsame
      rfl
    | _ => exact hold hentry fun _ => nofun

end Answered

namespace Coherent

theorem start (settings : ServiceSettings) (operations : Fin count → Operation)
    {store : MemoryStore} (hkeyed : store.Keyed) (lifetime : Option Nat) (clock : Instant)
    (supply : Nat → Uuid) :
    (CachedCalls.start settings operations ⟨store, .start lifetime clock supply⟩).Coherent where
  keyed := hkeyed
  generation _ _ := rfl
  entry _ _ := nofun
  caller caller := ⟨.start, {
    follows := ((operations caller).repays settings).run
    owed := fun _ => False.elim
    taken := fun _ => le_refl _
    generations := fun _ _ _ => nofun
    seen := fun _ _ => nofun }⟩

theorem proceed (hcoherent : calls.Coherent) {caller : Fin count} (hpaced : calls.Paced caller) :
    (calls.proceed caller).Coherent := by
  rw [CachedCalls.proceed]
  split
  · exact hcoherent
  · rename_i request resume hprogram
    have hadvanced := advanced_answered calls caller request resume
    constructor
    · cases request with
      | store call => exact hcoherent.keyed.answer call
      | aside request => exact hcoherent.keyed
    · intro henabled
      rw [isEnabled_answered] at henabled
      exact generation_answered hcoherent.generation henabled
    · intro product entry hentry
      obtain ⟨henabled, hexcused, hkept⟩ := entry_answered hcoherent hprogram hpaced hentry
      rw [isEnabled_answered]
      exact ⟨henabled, (excused_answered hexcused).resolve_right hkept⟩
    · intro other
      by_cases hsame : other = caller
      · subst hsame
        obtain ⟨stage, hcaller⟩ := hcoherent.caller other
        exact ⟨_, callerAt_answered hcoherent.keyed hcoherent.generation hcaller hprogram⟩
      · obtain ⟨stage, hother⟩ := hcoherent.caller other
        exact ⟨stage, hother.of_advanced hadvanced hsame⟩

theorem step (hcoherent : calls.Coherent) (hstep : calls.Step next) : next.Coherent := by
  cases hstep with
  | answered caller hpaced => exact hcoherent.proceed hpaced
  | moved reading =>
    exact ⟨hcoherent.keyed, hcoherent.generation, hcoherent.entry,
      fun caller => (hcoherent.caller caller).imp fun stage hcaller =>
        ⟨hcaller.follows, hcaller.owed, hcaller.taken, hcaller.generations, hcaller.seen⟩⟩

theorem of_reachable (hcoherent : calls.Coherent)
    (hreachable : Relation.ReflTransGen Step calls next) :
    next.Coherent := by
  induction hreachable with
  | refl => exact hcoherent
  | tail _ hstep ih => exact ih.step hstep

end Coherent

end CachedCalls

end Stockroom
