import Mathlib.Algebra.Group.Nat.Defs
import Mathlib.Data.List.Basic
import Stockroom.Proofs.Cache

/-!
# The cache and its history

What a cache answers is told by the calls that were made on it.  A lookup finds
what the last put has stored that brought the generation of the product, unless
the product was invalidated since or the put is too long ago; and the
generation of a product counts how often it was invalidated.
-/

namespace Stockroom

/-- What is asked of a cache. -/
inductive CacheCall where
  | get (product : ProductId)
  | generation (product : ProductId)
  | put (product : ProductId) (record : Option StockRecord) (generation : UInt64)
  | invalidate (product : ProductId)
  | invalidateMany (products : List ProductId)

/-- The products that a call invalidates, each as often as it does. -/
def CacheCall.invalidated : CacheCall → List ProductId
  | .invalidate product => [product]
  | .invalidateMany products => products
  | .get _ | .generation _ | .put _ _ _ => []

/-- A call, and the tick of the cache's clock at which it is made. -/
structure CacheEvent where
  call : CacheCall
  instant : Nat

/-- How often a history invalidates a product. -/
def invalidations (product : ProductId) (history : List CacheEvent) : Nat :=
  (history.flatMap (·.call.invalidated)).count product

theorem invalidations_concat (product : ProductId) (history : List CacheEvent)
    (event : CacheEvent) :
    invalidations product (history ++ [event]) =
      invalidations product history + event.call.invalidated.count product := by
  rw [invalidations, List.flatMap_append, List.count_append, List.flatMap_singleton, invalidations]

namespace CacheEvent

/-- The clock does not go back in a history, nor from its end to an instant. -/
def InOrder (history : List CacheEvent) (now : Nat) : Prop :=
  (history.map (·.instant) ++ [now]).Pairwise (· ≤ ·)

instance (history : List CacheEvent) (now : Nat) : Decidable (InOrder history now) :=
  inferInstanceAs (Decidable (List.Pairwise _ _))

theorem InOrder.of_concat {history : List CacheEvent} {event : CacheEvent} {now : Nat}
    (hordered : InOrder (history ++ [event]) now) :
    InOrder history event.instant ∧ event.instant ≤ now := by
  rw [InOrder, List.map_append, List.map_singleton] at hordered
  obtain ⟨hbefore, _, hlast⟩ := List.pairwise_append.1 hordered
  exact ⟨hbefore, hlast _ (List.mem_append_right _ (List.mem_singleton_self _)) _
    (List.mem_singleton_self _)⟩

/-- The cache that a call leaves. -/
def on (event : CacheEvent) (cache : StockCache) : StockCache :=
  match event.call with
  | .get product => (cache.get product event.instant).2
  | .generation _ => cache
  | .put product record generation => cache.put product record generation event.instant
  | .invalidate product => cache.invalidate product
  | .invalidateMany products => cache.invalidateMany products

/-- The call puts a record of a product, and the generation that it brings is how often the product
was invalidated before, modulo `2 ^ 64`. -/
def Matches (product : ProductId) (earlier : List CacheEvent) (record : Option StockRecord)
    (event : CacheEvent) : Prop :=
  ∃ generation, event.call = .put product record generation ∧
    generation.toNat = invalidations product earlier % 2 ^ 64

end CacheEvent

/-- The cache that a history leaves. -/
def StockCache.afterAll (cache : StockCache) (history : List CacheEvent) : StockCache :=
  history.foldl (fun cache event => event.on cache) cache

/-- At that instant a put of the record for the product matched, and since then the product was not
invalidated and no other put for it matched. -/
def LastPut (product : ProductId) (history : List CacheEvent) (record : Option StockRecord)
    (instant : Nat) : Prop :=
  ∃ earlier put later, history = earlier ++ put :: later ∧
    put.Matches product earlier record ∧ put.instant = instant ∧
    (∀ event ∈ later, product ∉ event.call.invalidated) ∧
    ∀ between event rest, later = between ++ event :: rest →
      ∀ other, ¬ event.Matches product (earlier ++ put :: between) other

variable {product : ProductId} {history : List CacheEvent} {event : CacheEvent}
  {record : Option StockRecord} {instant : Nat}

/-! ## The last put of a history -/

namespace CacheEvent

theorem Matches.record_eq {other : Option StockRecord}
    (hmatches : event.Matches product history record)
    (hother : event.Matches product history other) : other = record := by
  obtain ⟨_, hput, _⟩ := hmatches
  obtain ⟨_, hcall, _⟩ := hother
  rw [hput] at hcall
  cases hcall
  rfl

theorem Matches.not_mem_invalidated (hmatches : event.Matches product history record)
    (sought : ProductId) : sought ∉ event.call.invalidated := by
  obtain ⟨_, hput, _⟩ := hmatches
  rw [hput]
  exact List.not_mem_nil

end CacheEvent

namespace LastPut

/-- A list with one more item is split at the new item, or as it could be split before. -/
theorem concat_eq_split_iff {α : Type} {items earlier later : List α} {last item : α} :
    items ++ [last] = earlier ++ item :: later ↔
      items = earlier ∧ last = item ∧ later = [] ∨
        ∃ before, items = earlier ++ item :: before ∧ later = before ++ [last] := by
  constructor
  · intro hsplit
    rcases List.eq_nil_or_concat later with rfl | ⟨before, newest, rfl⟩
    · obtain ⟨hitems, hlast⟩ := List.append_inj' hsplit rfl
      exact .inl ⟨hitems, List.head_eq_of_cons_eq hlast, rfl⟩
    · rw [List.concat_eq_append, ← List.cons_append, ← List.append_assoc] at hsplit
      obtain ⟨hitems, hlast⟩ := List.append_inj' hsplit rfl
      exact .inr ⟨before, hitems, by rw [List.concat_eq_append, hlast]⟩
  · rintro (⟨rfl, rfl, rfl⟩ | ⟨before, rfl, rfl⟩)
    · rfl
    · rw [List.append_assoc, List.cons_append]

theorem not_nil : ¬ LastPut product [] record instant := by
  rintro ⟨earlier, put, later, hhistory, _⟩
  exact List.append_ne_nil_of_right_ne_nil earlier (List.cons_ne_nil put later) hhistory.symm

/-- The last put of a history is its last event, or it was the last one before and still counts. -/
theorem concat_iff : LastPut product (history ++ [event]) record instant ↔
    event.Matches product history record ∧ event.instant = instant ∨
      LastPut product history record instant ∧ product ∉ event.call.invalidated ∧
        ∀ other, ¬ event.Matches product history other := by
  constructor
  · rintro ⟨earlier, put, later, hhistory, hmatches, hinstant, hkept, hlast⟩
    rcases concat_eq_split_iff.1 hhistory with ⟨rfl, rfl, rfl⟩ | ⟨before, rfl, rfl⟩
    · exact .inl ⟨hmatches, hinstant⟩
    · have hbefore : LastPut product (earlier ++ put :: before) record instant :=
        ⟨earlier, put, before, rfl, hmatches, hinstant,
          fun other hother => hkept other (List.mem_append_left _ hother),
          fun between other rest hrest => hlast between other (rest ++ [event])
            (concat_eq_split_iff.2 (.inr ⟨rest, hrest, rfl⟩))⟩
      exact .inr ⟨hbefore, hkept event (List.mem_append_right _ (List.mem_singleton_self event)),
        hlast before event [] rfl⟩
  · rintro (⟨hmatches, hinstant⟩ | ⟨⟨earlier, put, later, rfl, hmatches, hinstant, hkept, hlast⟩,
      hforgotten, hunmatched⟩)
    · refine ⟨history, event, [], rfl, hmatches, hinstant,
        fun _ hother => absurd hother List.not_mem_nil, fun between other rest hnil => ?_⟩
      exact absurd hnil.symm (List.append_ne_nil_of_right_ne_nil between (List.cons_ne_nil _ _))
    · refine ⟨earlier, put, later ++ [event], concat_eq_split_iff.2 (.inr ⟨later, rfl, rfl⟩),
        hmatches, hinstant, fun other hother => ?_, fun between other rest hlater => ?_⟩
      · rcases List.mem_append.1 hother with hother | hother
        · exact hkept other hother
        · rw [List.mem_singleton.1 hother]
          exact hforgotten
      · rcases concat_eq_split_iff.1 hlater with ⟨rfl, rfl, _⟩ | ⟨before, hbefore, _⟩
        · exact hunmatched
        · exact hlast between other before hbefore

theorem concat_of_matches {stored : Option StockRecord}
    (hmatches : event.Matches product history stored) :
    LastPut product (history ++ [event]) record instant ↔
      stored = record ∧ event.instant = instant := by
  rw [concat_iff]
  constructor
  · rintro (⟨hother, hinstant⟩ | ⟨_, _, hunmatched⟩)
    · exact ⟨hother.record_eq hmatches, hinstant⟩
    · exact absurd hmatches (hunmatched stored)
  · rintro ⟨rfl, hinstant⟩
    exact .inl ⟨hmatches, hinstant⟩

theorem not_concat_of_invalidated (hinvalidated : product ∈ event.call.invalidated) :
    ¬ LastPut product (history ++ [event]) record instant := by
  rw [concat_iff]
  rintro (⟨hmatches, _⟩ | ⟨_, hkept, _⟩)
  · exact hmatches.not_mem_invalidated product hinvalidated
  · exact hkept hinvalidated

theorem concat_of_other (hkept : product ∉ event.call.invalidated)
    (hunmatched : ∀ other, ¬ event.Matches product history other) :
    LastPut product (history ++ [event]) record instant ↔
      LastPut product history record instant := by
  rw [concat_iff]
  constructor
  · rintro (⟨hmatches, _⟩ | ⟨hlast, _⟩)
    · exact absurd hmatches (hunmatched record)
    · exact hlast
  · exact fun hlast => .inr ⟨hlast, hkept, hunmatched⟩

end LastPut

namespace StockCache

variable {cache : StockCache} {lifetime : Nat}

/-! ## What one call changes -/

@[simp]
theorem lifetime_on (event : CacheEvent) (cache : StockCache) :
    (event.on cache).lifetime = cache.lifetime := by
  obtain ⟨call, instant⟩ := event
  cases call with
  | get product => exact lifetime_get ..
  | generation product => rfl
  | put product record generation => exact lifetime_put ..
  | invalidate product => exact lifetime_invalidate ..
  | invalidateMany products => exact lifetime_invalidateMany ..

theorem generation_on (henabled : cache.isEnabled) (event : CacheEvent) (product : ProductId) :
    (event.on cache).generation product =
      cache.generation product + UInt64.ofNat (event.call.invalidated.count product) := by
  obtain ⟨call, instant⟩ := event
  cases call with
  | get sought => exact (generation_get ..).trans (UInt64.add_zero _).symm
  | generation sought => exact (UInt64.add_zero _).symm
  | put sought record generation => exact (generation_put ..).trans (UInt64.add_zero _).symm
  | invalidate forgotten => exact generation_invalidateMany _ henabled [forgotten]
  | invalidateMany products => exact generation_invalidateMany _ henabled products

/-- The generation of a product is how often it was invalidated, modulo `2 ^ 64`. -/
def Counts (cache : StockCache) (product : ProductId) (history : List CacheEvent) : Prop :=
  (cache.generation product).toNat = invalidations product history % 2 ^ 64

theorem Counts.on (hcounts : cache.Counts product history) (henabled : cache.isEnabled)
    (event : CacheEvent) : (event.on cache).Counts product (history ++ [event]) := by
  rw [Counts, generation_on henabled, invalidations_concat, UInt64.toNat_add, hcounts,
    UInt64.toNat_ofNat', ← Nat.add_mod]

theorem Counts.generation_eq_iff (hcounts : cache.Counts product history) (generation : UInt64) :
    cache.generation product = generation ↔
      generation.toNat = invalidations product history % 2 ^ 64 := by
  rw [← UInt64.toNat_inj, hcounts, eq_comm]

theorem get_on_of_matches (hlifetime : cache.lifetime = some lifetime)
    (hcounts : cache.Counts product history) (hmatches : event.Matches product history record)
    (later : Nat) :
    ((event.on cache).get product later).1 =
      if later - event.instant < lifetime then some record else none := by
  obtain ⟨generation, hput, hgeneration⟩ := hmatches
  rw [CacheEvent.on, hput]
  exact get_after_put hlifetime ((hcounts.generation_eq_iff generation).2 hgeneration) ..

theorem get_on_of_invalidated (henabled : cache.isEnabled)
    (hinvalidated : product ∈ event.call.invalidated) (later : Nat) :
    ((event.on cache).get product later).1 = none := by
  obtain ⟨call, instant⟩ := event
  cases call with
  | get _ | generation _ | put _ _ _ => exact absurd hinvalidated List.not_mem_nil
  | invalidate _ | invalidateMany _ => exact get_after_invalidateMany henabled hinvalidated later

/-- A call that neither invalidates a product nor puts it with the right generation changes nothing
about what is found of it from then on. -/
theorem get_on_of_other (hcounts : cache.Counts product history)
    (hkept : product ∉ event.call.invalidated)
    (hunmatched : ∀ other, ¬ event.Matches product history other) {later : Nat}
    (hlater : event.instant ≤ later) :
    ((event.on cache).get product later).1 = (cache.get product later).1 := by
  obtain ⟨call, instant⟩ := event
  cases call with
  | get sought => exact get_after_get _ _ _ hlater
  | generation sought => rfl
  | put sought record generation =>
    refine get_found_congr (lifetime_put ..) (slot_put_of_not _ _ _ ?_) later
    rintro ⟨rfl, hgeneration⟩
    exact hunmatched record ⟨generation, rfl, (hcounts.generation_eq_iff generation).1 hgeneration⟩
  | invalidate _ | invalidateMany _ =>
    exact get_found_congr (lifetime_invalidateMany ..)
      (slot_invalidateMany_of_not_mem _ _ hkept) later

/-- From an instant on, a lookup finds what the last put of a history has stored, while it lasts. -/
def Recalls (cache : StockCache) (lifetime : Nat) (product : ProductId)
    (history : List CacheEvent) (now : Nat) : Prop :=
  ∀ later, now ≤ later → ∀ record, (cache.get product later).1 = some record ↔
    ∃ instant, LastPut product history record instant ∧ later - instant < lifetime

/-- What a call does to the lookups after it, it does to the last put of the history. -/
theorem Recalls.on (hrecalls : cache.Recalls lifetime product history event.instant)
    (hlifetime : cache.lifetime = some lifetime) (hcounts : cache.Counts product history) :
    (event.on cache).Recalls lifetime product (history ++ [event]) event.instant := by
  intro later hlater record
  have henabled : cache.isEnabled := by rw [isEnabled, hlifetime, Option.isSome_some]
  by_cases hinvalidated : product ∈ event.call.invalidated
  · rw [get_on_of_invalidated henabled hinvalidated]
    constructor
    · intro hfound
      cases hfound
    · rintro ⟨_, hlast, _⟩
      exact absurd hlast (LastPut.not_concat_of_invalidated hinvalidated)
  · by_cases hmatched : ∃ stored, event.Matches product history stored
    · obtain ⟨stored, hmatches⟩ := hmatched
      simp only [get_on_of_matches hlifetime hcounts hmatches, LastPut.concat_of_matches hmatches,
        Option.ite_none_right_eq_some, Option.some.injEq]
      constructor
      · rintro ⟨hfresh, hrecord⟩
        exact ⟨event.instant, ⟨hrecord, rfl⟩, hfresh⟩
      · rintro ⟨_, ⟨hrecord, rfl⟩, hfresh⟩
        exact ⟨hfresh, hrecord⟩
    · have hunmatched := not_exists.1 hmatched
      simp only [get_on_of_other hcounts hinvalidated hunmatched hlater,
        LastPut.concat_of_other hinvalidated hunmatched]
      exact hrecalls later hlater record

/-! ## Whole histories -/

theorem lifetime_create (hpositive : 0 < lifetime) :
    (create (some lifetime)).lifetime = some lifetime := by
  rw [create, Option.filter_some, if_pos (decide_eq_true (Nat.pos_iff_ne_zero.1 hpositive))]

theorem get_create (lifetime : Option Nat) (product : ProductId) (now : Nat) :
    ((create lifetime).get product now).1 = none := by
  refine Option.eq_none_iff_forall_ne_some.2 fun record hfound => ?_
  obtain ⟨entry, hentry, _⟩ := entry_of_found _ _ hfound
  exact absurd hentry nofun

theorem afterAll_concat (cache : StockCache) (history : List CacheEvent) (event : CacheEvent) :
    cache.afterAll (history ++ [event]) = event.on (cache.afterAll history) :=
  List.foldl_append

@[simp]
theorem lifetime_afterAll (cache : StockCache) (history : List CacheEvent) :
    (cache.afterAll history).lifetime = cache.lifetime := by
  induction history using List.reverseRecOn with
  | nil => rfl
  | append_singleton history event ih => rw [afterAll_concat, lifetime_on, ih]

theorem counts_afterAll (hpositive : 0 < lifetime) (product : ProductId)
    (history : List CacheEvent) :
    ((create (some lifetime)).afterAll history).Counts product history := by
  induction history using List.reverseRecOn with
  | nil => rfl
  | append_singleton history event ih =>
    rw [afterAll_concat]
    refine ih.on ?_ event
    rw [isEnabled, lifetime_afterAll, lifetime_create hpositive, Option.isSome_some]

theorem recalls_afterAll (hpositive : 0 < lifetime) (product : ProductId)
    {history : List CacheEvent} {now : Nat} (hordered : CacheEvent.InOrder history now) :
    ((create (some lifetime)).afterAll history).Recalls lifetime product history now := by
  -- `Recalls` speaks of all later lookups, so each event takes it over from the events before it.
  induction history using List.reverseRecOn generalizing now with
  | nil =>
    intro later _ record
    rw [afterAll, List.foldl_nil, get_create]
    constructor
    · intro hfound
      cases hfound
    · rintro ⟨_, hlast, _⟩
      exact absurd hlast LastPut.not_nil
  | append_singleton history event ih =>
    obtain ⟨hbefore, hle⟩ := hordered.of_concat
    have hlifetime : ((create (some lifetime)).afterAll history).lifetime = some lifetime := by
      rw [lifetime_afterAll, lifetime_create hpositive]
    have hevent := (ih hbefore).on hlifetime (counts_afterAll hpositive product history)
    rw [afterAll_concat]
    exact fun later hlater record => hevent later (hle.trans hlater) record

/-- Without a lifetime no call changes anything. -/
theorem on_of_disabled (hdisabled : cache.isEnabled = false) (event : CacheEvent) :
    event.on cache = cache := by
  obtain ⟨call, instant⟩ := event
  cases call with
  | get sought => exact congrArg Prod.snd (get_of_disabled hdisabled)
  | generation sought => rfl
  | put sought record generation => exact if_neg fun hput => Bool.eq_false_iff.1 hdisabled hput.1
  | invalidate forgotten => exact invalidateMany_of_disabled hdisabled [forgotten]
  | invalidateMany products => exact invalidateMany_of_disabled hdisabled products

theorem afterAll_of_disabled (hdisabled : cache.isEnabled = false) (history : List CacheEvent) :
    cache.afterAll history = cache := by
  induction history with
  | nil => rfl
  | cons event rest ih =>
    rw [afterAll, List.foldl_cons, on_of_disabled hdisabled]
    exact ih

/-- What a cache with a lifetime finds of a product, at the end of any history in the order of its
instants, is what its last matching put has stored, unless that is a lifetime ago; and the
generation of a product is how often the history has invalidated it.  A cache without a lifetime
finds nothing and starts no generation. -/
theorem answers_told_by_history :
    (∀ lifetime, 0 < lifetime → ∀ (history : List CacheEvent) (product : ProductId),
      let cache := (create (some lifetime)).afterAll history
      (∀ now, CacheEvent.InOrder history now → ∀ record,
        (cache.get product now).1 = some record ↔
          ∃ instant, LastPut product history record instant ∧ now - instant < lifetime) ∧
      (cache.generation product).toNat = invalidations product history % 2 ^ 64) ∧
    ∀ lifetime, lifetime = none ∨ lifetime = some 0 →
      ∀ (history : List CacheEvent) (product : ProductId),
        let cache := (create lifetime).afterAll history
        (∀ now, (cache.get product now).1 = none) ∧ cache.generation product = 0 := by
  refine ⟨fun lifetime hpositive history product => ⟨fun now hordered record => ?_, ?_⟩,
    fun lifetime hnone history product => ?_⟩
  · exact recalls_afterAll hpositive product hordered now (le_refl now) record
  · exact counts_afterAll hpositive product history
  · have hdisabled : (create lifetime).isEnabled = false := by
      rcases hnone with rfl | rfl
      · rfl
      · rfl
    rw [afterAll_of_disabled hdisabled]
    exact ⟨get_create lifetime product, rfl⟩

/-- A record of the cup that was read before the cup was invalidated is not remembered after it.
What was read afterwards is, for as long as it lasts. -/
theorem answers_told_by_history_of_stale_put :
    let cup : ProductId := ⟨"cup", by decide⟩
    let plate : ProductId := ⟨"plate", by decide⟩
    let stale : StockRecord := .create (Uuid.ofNat 1) cup ⟨5, by decide⟩ ⟨1, by decide⟩ .epoch
    let history : List CacheEvent :=
      [⟨.put cup (some stale) 0, 0⟩, ⟨.get cup, 1⟩, ⟨.invalidateMany [cup, plate, cup], 2⟩,
        ⟨.put cup none 2, 3⟩, ⟨.put cup (some stale) 0, 4⟩, ⟨.generation cup, 4⟩]
    let cache := (create (some 5)).afterAll history
    (CacheEvent.InOrder history 7 ∧ (cache.get cup 7).1 = some none ∧
      ∃ instant, LastPut cup history none instant ∧ 7 - instant < 5) ∧
    (CacheEvent.InOrder history 8 ∧ (cache.get cup 8).1 = none ∧
      ¬ ∃ instant, LastPut cup history none instant ∧ 8 - instant < 5) ∧
    (cache.generation cup).toNat = 2 ∧
    (((create (some 0)).afterAll history).get cup 1).1 = none := by
  intro cup plate stale history cache
  obtain ⟨hfound, hgeneration⟩ := answers_told_by_history.1 5 (by decide) history cup
  have hfresh : CacheEvent.InOrder history 7 := by decide
  have hstale : CacheEvent.InOrder history 8 := by decide
  have hcached : (cache.get cup 7).1 = some none := by decide +kernel
  have hgone : (cache.get cup 8).1 = none := by decide +kernel
  refine ⟨⟨hfresh, hcached, (hfound 7 hfresh none).1 hcached⟩, ⟨hstale, hgone, fun hlast => ?_⟩,
    hgeneration.trans (by decide),
    (answers_told_by_history.2 (some 0) (.inr rfl) history cup).1 1⟩
  exact absurd (hgone.symm.trans ((hfound 8 hstale none).2 hlast)) nofun

end StockCache

end Stockroom
