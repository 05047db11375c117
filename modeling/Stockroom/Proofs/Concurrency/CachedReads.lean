import Stockroom.Proofs.Concurrency.Coherence

/-!
# Reads through a shared cache

A read that runs while nobody has changed a product without making the cache
forget it returns what it would return without a cache.
-/

namespace Stockroom.CachedCalls

variable {count : Nat} {operations : Fin count → Operation} {calls next : CachedCalls operations}

theorem Coherent.entry_of_quiet (hcoherent : calls.Coherent) {product : ProductId}
    (hquiet : ∀ caller, product ∉ calls.owed caller) {entry : CacheEntry}
    (hentry : (calls.cache.slot product).entry = some entry) :
    entry.record = calls.recorded product := by
  rcases (hcoherent.entry product entry hentry).2 with hrecorded | ⟨caller, howed⟩
  · exact hrecorded
  · exact absurd howed (hquiet caller)

theorem recorded_of_quietStep (hstep : calls.QuietStep next) : next.recorded = calls.recorded := by
  obtain ⟨hstep, hquiet⟩ := hstep
  cases hstep with
  | moved reading => rfl
  | answered caller hpaced =>
    funext product
    rw [CachedCalls.proceed] at hquiet ⊢
    split
    · rfl
    · rename_i request resume hprogram
      rw [hprogram] at hquiet
      refine (recorded_answered product).resolve_right fun howed => ?_
      rw [hquiet caller] at howed
      exact howed

/-- What a reader is answered at a quiet moment comes from what is recorded. -/
theorem Coherent.expects (hcoherent : calls.Coherent) (hquiet : calls.Quiet)
    {request : ServiceRequest} (hallowed : (reading calls.recorded).allows () request) :
    (reading calls.recorded).expects () request
      (MemoryService.answer request calls.service).1 := by
  cases request with
  | store call =>
    cases call with
    | find product => rfl
    | findMany products =>
      exact ⟨_, rfl, fun product hmem => MemoryStore.find?_findMany hcoherent.keyed hmem⟩
    | _ => cases hallowed
  | aside request =>
    cases request with
    | cached product =>
      intro record hfound
      obtain ⟨entry, hentry, hrecord⟩ := StockCache.entry_of_found _ _ hfound
      rw [← hrecord]
      refine hcoherent.entry_of_quiet (fun caller howed => ?_) hentry
      rw [hquiet caller] at howed
      exact howed
    | generation _ | remember _ _ _ => exact trivial
    | _ => cases hallowed

/-- A read that runs while nobody is about to make the cache forget something keeps to what
was recorded when it started. -/
theorem follows_of_quiet (hcoherent : calls.Coherent) (hquiet : calls.Quiet) (reader : Fin count)
    (outcome : Except CallFailure (operations reader).Value)
    (hreads : (calls.program reader).Follows (reading calls.recorded)
      (fun result _ => result = outcome) ())
    {last : CachedCalls operations} (hpath : Relation.ReflTransGen QuietStep calls last) :
    last.Coherent ∧ last.Quiet ∧ last.recorded = calls.recorded ∧
      (last.program reader).Follows (reading calls.recorded) (fun result _ => result = outcome)
        () := by
  induction hpath with
  | refl => exact ⟨hcoherent, hquiet, rfl, hreads⟩
  | @tail middle last _ hstep ih =>
    obtain ⟨hcoherent, hquiet, hrecorded, hfollows⟩ := ih
    refine ⟨hcoherent.step hstep.1, hstep.2, (recorded_of_quietStep hstep).trans hrecorded, ?_⟩
    obtain ⟨hstep, -⟩ := hstep
    cases hstep with
    | moved reading => exact hfollows
    | answered caller hpaced =>
      rw [CachedCalls.proceed]
      split
      · exact hfollows
      · rename_i request resume hprogram
        change (Function.update middle.program caller _ reader).Follows ..
        by_cases hsame : reader = caller
        · subst hsame
          rw [hprogram] at hfollows
          rw [Function.update_self]
          refine hfollows.2 _ ?_
          rw [← hrecorded] at hfollows ⊢
          exact hcoherent.expects hquiet hfollows.1
        · rw [Function.update_of_ne hsame]
          exact hfollows

/-- Nobody owes anything after a request of a reader, if nobody did before. -/
theorem quiet_proceed_of_reads (hquiet : calls.Quiet) {recorded : ProductId → Option StockRecord}
    {reader : Fin count} {outcome : Except CallFailure (operations reader).Value}
    (hreads : (calls.program reader).Follows (reading recorded)
      (fun result _ => result = outcome) ()) :
    (calls.proceed reader).Quiet := by
  intro caller
  rw [CachedCalls.proceed]
  split
  · exact hquiet caller
  · rename_i request resume hprogram
    rw [hprogram] at hreads
    change Function.update calls.owed reader _ caller = ∅
    have hkept : owedAfter request calls.service.store
        (MemoryService.answer request calls.service).2.store (calls.owed reader) = ∅ := by
      rw [hquiet reader]
      cases request with
      | store call =>
        cases call with
        | find _ | findMany _ =>
          refine Set.eq_empty_of_forall_notMem fun product hchanged => ?_
          rcases hchanged with howed | hchanged
          · exact howed
          · exact hchanged rfl
        | _ => exact hreads.1.elim
      | aside request =>
        cases request with
        | forget _ => exact hreads.1.elim
        | _ => rfl
    rw [Function.update_apply]
    split
    · exact hkept
    · exact hquiet caller

/-- A reader who is the only one to take steps meets quiet moments only. -/
theorem quiet_run_of_reads (hcoherent : calls.Coherent) (hquiet : calls.Quiet) (reader : Fin count)
    (outcome : Except CallFailure (operations reader).Value)
    (hreads : (calls.program reader).Follows (reading calls.recorded)
      (fun result _ => result = outcome) ()) (steps : Nat)
    (hshort : ∀ product, calls.forgotten product + steps ≤ 2 ^ 64) :
    Relation.ReflTransGen QuietStep calls (calls.run (List.replicate steps reader)) := by
  induction steps generalizing calls with
  | zero => exact .refl
  | succ steps ih =>
    have hpaced : calls.Paced reader := by
      intro product _ _ _ _
      have hbound := hshort product
      omega
    have hstep : calls.QuietStep (calls.proceed reader) :=
      ⟨.answered reader hpaced, quiet_proceed_of_reads hquiet hreads⟩
    obtain ⟨hnext, hquietNext, hrecorded, hfollows⟩ :=
      follows_of_quiet hcoherent hquiet reader outcome hreads (.single hstep)
    rw [← hrecorded] at hfollows
    refine .head hstep (ih hnext hquietNext hfollows fun product => ?_)
    have hgrown := calls.forgotten_proceed_le reader product
    have hbound := hshort product
    omega

/-- Nobody who has finished owes anything, the cache agrees with the store about every product
that nobody owes, and a read that runs at quiet moments only returns what it would return, from
the moment at which it starts, without a cache. -/
theorem coherent_of_reachable (settings : ServiceSettings) (operations : Fin count → Operation)
    {store : MemoryStore} (hkeyed : store.Keyed) (lifetime : Option Nat) (clock : Instant)
    (supply : Nat → Uuid) {calls : CachedCalls operations}
    (hreachable : Relation.ReflTransGen Step
      (CachedCalls.start settings operations ⟨store, .start lifetime clock supply⟩) calls) :
    (∀ product, (∀ caller, product ∉ calls.owed caller) →
      ∀ entry, (calls.cache.slot product).entry = some entry →
        entry.record = calls.recorded product) ∧
    (∀ caller outcome, calls.program caller = .done outcome → calls.owed caller = ∅) ∧
    ∀ reader, (operations reader).ReadsStock →
      calls.program reader = ((operations reader).call settings).run → calls.Quiet →
      ∀ last, Relation.ReflTransGen QuietStep calls last →
      ∀ outcome, last.program reader = .done outcome →
        outcome = (calls.service.uncached.perform ((operations reader).call settings)).1 := by
  have hcoherent : calls.Coherent :=
    (Coherent.start settings operations hkeyed lifetime clock supply).of_reachable hreachable
  refine ⟨fun product hquiet entry hentry => hcoherent.entry_of_quiet hquiet hentry,
    fun caller outcome hdone => ?_, fun reader hreads hstarts hquiet last hpath outcome hdone => ?_⟩
  · obtain ⟨stage, hcaller⟩ := hcoherent.caller caller
    have hpaid := hcaller.follows
    rw [hdone] at hpaid
    refine Set.eq_empty_of_forall_notMem fun product howed => ?_
    have hmem := hcaller.owed product howed
    rw [hpaid] at hmem
    exact List.not_mem_nil hmem
  · obtain ⟨expected, hexpected⟩ := (operations reader).reads settings hreads calls.recorded
    have hfollows := hexpected.run
    rw [← hstarts] at hfollows
    have hlast := (follows_of_quiet hcoherent hquiet reader expected hfollows hpath).2.2.2
    rw [hdone] at hlast
    exact hlast.trans (MemoryService.perform_uncached hcoherent.keyed hexpected).symm

/-- A cup is put on stock, and read afterwards. -/
theorem coherent_of_reachable_one_read :
    let cup : ProductId := ⟨"cup", by decide⟩
    let settings : ServiceSettings := ⟨⟨900000000000⟩⟩
    let operations : Fin 2 → Operation := fun caller =>
      match caller with
      | 0 => .create "cup" (some 5) none
      | 1 => .get "cup"
    let begun := start settings operations ⟨.empty, .start (some 10) .epoch Uuid.ofNat⟩
    let created := begun.run [0, 0, 0, 0]
    let read := created.run (List.replicate 4 1)
    (∃ entry, (read.cache.slot cup).entry = some entry ∧ entry.record.isSome ∧
      entry.record = read.recorded cup) ∧
    ∃ outcome, read.program 1 = .done outcome ∧
      outcome = (created.service.uncached.perform ((operations 1).call settings)).1 := by
  intro cup settings operations begun created read
  have hshort (product : ProductId) : begun.forgotten product + 4 + 4 ≤ 2 ^ 64 := by
    change 0 + 4 + 4 ≤ 2 ^ 64
    decide
  have hreachable : Relation.ReflTransGen Step begun created :=
    reachable_run fun product => (Nat.le_add_right _ 4).trans (hshort product)
  obtain ⟨_, hfinished, hreads⟩ := coherent_of_reachable settings operations
    MemoryStore.Keyed.empty (some 10) .epoch Uuid.ofNat hreachable
  have hcoherent := (Coherent.start settings operations MemoryStore.Keyed.empty (some 10) .epoch
    Uuid.ofNat).of_reachable hreachable
  obtain ⟨hstarts, hidle⟩ : created.program 1 = ((operations 1).call settings).run ∧
      created.owed 1 = ∅ := run_of_not_mem (by decide)
  have hquiet : created.Quiet := by
    intro caller
    match caller with
    | 0 =>
      have hdone : (created.program 0).value?.isSome = true := by decide +kernel
      obtain ⟨outcome, hvalue⟩ := Option.isSome_iff_exists.1 hdone
      exact hfinished 0 outcome (Program.value?_eq_some_iff.1 hvalue)
    | 1 => exact hidle
  obtain ⟨expected, hexpected⟩ := (operations 1).reads settings trivial created.recorded
  have hfollows := hexpected.run
  rw [← hstarts] at hfollows
  have hpath : Relation.ReflTransGen QuietStep created read :=
    quiet_run_of_reads hcoherent hquiet 1 expected hfollows 4 fun product =>
      (Nat.add_le_add_right (begun.forgotten_run_le [0, 0, 0, 0] product) 4).trans (hshort product)
  have hdone : (read.program 1).value?.isSome = true := by decide +kernel
  obtain ⟨outcome, hvalue⟩ := Option.isSome_iff_exists.1 hdone
  have hread := Program.value?_eq_some_iff.1 hvalue
  have hresult := hreads 1 trivial hstarts hquiet read hpath outcome hread
  refine ⟨?_, outcome, hread, hresult⟩
  have hentry : (read.cache.slot cup).entry.map (·.record.isSome) = some true := by
    decide +kernel
  obtain ⟨entry, hentry, hrecord⟩ := Option.map_eq_some_iff.1 hentry
  obtain ⟨hlast, hlastQuiet, _, _⟩ :=
    follows_of_quiet hcoherent hquiet 1 expected hfollows hpath
  have hnobody : ∀ caller, cup ∉ read.owed caller := by
    intro caller howed
    rw [hlastQuiet caller] at howed
    exact howed
  have hcurrent := hlast.entry_of_quiet hnobody hentry
  exact ⟨entry, hentry, hrecord, hcurrent⟩

end Stockroom.CachedCalls
