import Stockroom.Cache
import Stockroom.Proofs.SortedMap

/-!
# What the cache remembers

How looking up, remembering and forgetting change the generation and the entry
of each product, and with them what later lookups find.
-/

namespace Stockroom.StockCache

variable (cache : StockCache) (product sought : ProductId)

@[simp]
theorem slot_putSlot (slot : CacheSlot) :
    (cache.putSlot product slot).slot sought =
      if product = sought then slot else cache.slot sought := by
  rw [StockCache.slot, putSlot, SortedMap.find?_insert]
  split
  · rfl
  · rfl

@[simp]
theorem isEnabled_putSlot (slot : CacheSlot) :
    (cache.putSlot product slot).isEnabled = cache.isEnabled := rfl

@[simp]
theorem lifetime_get (now : Nat) : (cache.get product now).2.lifetime = cache.lifetime := by
  rw [get]
  split
  · split <;> rfl
  · rfl

@[simp]
theorem lifetime_put (record : Option StockRecord) (taken : UInt64) (now : Nat) :
    (cache.put product record taken now).lifetime = cache.lifetime := by
  rw [put]
  split <;> rfl

@[simp]
theorem lifetime_invalidate : (cache.invalidate product).lifetime = cache.lifetime := by
  rw [invalidate]
  split <;> rfl

@[simp]
theorem isEnabled_get (now : Nat) : (cache.get product now).2.isEnabled = cache.isEnabled := by
  rw [isEnabled, lifetime_get, isEnabled]

@[simp]
theorem isEnabled_put (record : Option StockRecord) (generation : UInt64) (now : Nat) :
    (cache.put product record generation now).isEnabled = cache.isEnabled := by
  rw [isEnabled, lifetime_put, isEnabled]

@[simp]
theorem isEnabled_invalidate : (cache.invalidate product).isEnabled = cache.isEnabled := by
  rw [isEnabled, lifetime_invalidate, isEnabled]

theorem get_of_disabled {cache : StockCache} {product : ProductId} {now : Nat}
    (hdisabled : cache.isEnabled = false) : cache.get product now = (none, cache) := by
  rw [get, Option.not_isSome_iff_eq_none.1 (Bool.eq_false_iff.1 hdisabled)]

theorem generation_get (now : Nat) :
    (cache.get product now).2.generation sought = cache.generation sought := by
  rw [get]
  split
  · split
    · rfl
    · rw [generation, slot_putSlot]
      split
      · rename_i hsame
        rw [← hsame]
        rfl
      · rfl
  · rfl

theorem generation_put (record : Option StockRecord) (taken : UInt64) (now : Nat) :
    (cache.put product record taken now).generation sought = cache.generation sought := by
  rw [put]
  split
  · rename_i hput
    rw [generation, slot_putSlot]
    split
    · rename_i hsame
      rw [← hsame, hput.2]
    · rfl
  · rfl

theorem generation_invalidate (henabled : cache.isEnabled) :
    (cache.invalidate product).generation sought =
      if product = sought then cache.generation sought + 1 else cache.generation sought := by
  rw [invalidate, if_pos henabled, generation, slot_putSlot]
  split
  · rename_i hsame
    rw [hsame]
  · rfl

/-- Looking up adds no entry. -/
theorem entry_of_get {now : Nat} {entry : CacheEntry}
    (hentry : ((cache.get product now).2.slot sought).entry = some entry) :
    (cache.slot sought).entry = some entry := by
  rw [get] at hentry
  split at hentry
  · split at hentry
    · exact hentry
    · rw [slot_putSlot] at hentry
      split at hentry
      · cases hentry
      · exact hentry
  · exact hentry

theorem entry_of_put {record : Option StockRecord} {taken : UInt64} {now : Nat}
    {entry : CacheEntry}
    (hentry : ((cache.put product record taken now).slot sought).entry = some entry) :
    (cache.slot sought).entry = some entry ∨
      cache.isEnabled ∧ product = sought ∧ cache.generation product = taken ∧
        entry.record = record := by
  rw [put] at hentry
  split at hentry
  · rename_i hput
    rw [slot_putSlot] at hentry
    split at hentry
    · cases hentry
      exact .inr ⟨hput.1, ‹_›, hput.2, rfl⟩
    · exact .inl hentry
  · exact .inl hentry

/-- Forgetting leaves only entries of other products, if it does anything. -/
theorem entry_of_invalidate {entry : CacheEntry}
    (hentry : ((cache.invalidate product).slot sought).entry = some entry) :
    (cache.slot sought).entry = some entry ∧ (cache.isEnabled → product ≠ sought) := by
  rw [invalidate] at hentry
  split at hentry
  · rw [slot_putSlot] at hentry
    split at hentry
    · cases hentry
    · exact ⟨hentry, fun _ => ‹_›⟩
  · exact ⟨hentry, fun henabled => absurd henabled ‹_›⟩

/-- What a lookup finds is the record of an entry. -/
theorem entry_of_found {now : Nat} {record : Option StockRecord}
    (hfound : (cache.get product now).1 = some record) :
    ∃ entry, (cache.slot product).entry = some entry ∧ entry.record = record := by
  rw [get] at hfound
  split at hfound
  · rename_i entry _ hentry
    split at hfound
    · exact ⟨entry, hentry, Option.some.inj hfound⟩
    · cases hfound
  · cases hfound

/-! ## What later lookups find -/

/-- A lookup finds the record of the entry, unless the entry has outlived its time. -/
theorem get_found (now : Nat) :
    (cache.get product now).1 = cache.lifetime.bind fun lifetime =>
      ((cache.slot product).entry.filter (now - ·.storedAt < lifetime)).map (·.record) := by
  rw [get]
  split
  · rename_i lifetime entry hlifetime hentry
    rw [hlifetime, hentry, Option.bind_some, Option.filter_some]
    by_cases hfresh : now - entry.storedAt < lifetime
    · rw [if_pos hfresh, if_pos (decide_eq_true hfresh), Option.map_some]
    · rw [if_neg hfresh, if_neg (by simpa using hfresh), Option.map_none]
  · rename_i hneither
    cases hlifetime : cache.lifetime with
    | none => rfl
    | some lifetime =>
      cases hentry : (cache.slot product).entry with
      | none => rfl
      | some entry => exact absurd hentry (hneither lifetime entry hlifetime)

/-- What is found of a product depends on nothing that is kept of other products. -/
theorem get_found_congr {one other : StockCache} {product : ProductId}
    (hlifetime : one.lifetime = other.lifetime) (hslot : one.slot product = other.slot product)
    (now : Nat) : (one.get product now).1 = (other.get product now).1 := by
  rw [get_found, get_found, hlifetime, hslot]

/-- A lookup drops an entry only when no later lookup would find it. -/
theorem get_after_get {now later : Nat} (hlater : now ≤ later) :
    ((cache.get product now).2.get sought later).1 = (cache.get sought later).1 := by
  rw [get_found _ sought, get_found cache sought, lifetime_get, get]
  split
  · rename_i lifetime entry hlifetime hentry
    split
    · rfl
    · rename_i hdropped
      rw [slot_putSlot]
      split
      · rename_i hsame
        have hexpired : ¬ later - entry.storedAt < lifetime := by omega
        rw [← hsame, hlifetime, hentry, Option.bind_some, Option.bind_some, Option.filter_none,
          Option.filter_some, if_neg (by simpa using hexpired)]
      · rfl
  · rfl

theorem slot_put_of_not {record : Option StockRecord} {taken : UInt64} {now : Nat}
    (hother : ¬ (product = sought ∧ cache.generation product = taken)) :
    (cache.put product record taken now).slot sought = cache.slot sought := by
  rw [put]
  split
  · rename_i hput
    rw [slot_putSlot, if_neg fun hsame => hother ⟨hsame, hput.2⟩]
  · rfl

theorem get_after_put {cache : StockCache} {product : ProductId} {lifetime : Nat} {taken : UInt64}
    (hlifetime : cache.lifetime = some lifetime) (htaken : cache.generation product = taken)
    (record : Option StockRecord) (now later : Nat) :
    ((cache.put product record taken now).get product later).1 =
      if later - now < lifetime then some record else none := by
  have henabled : cache.isEnabled := by rw [isEnabled, hlifetime, Option.isSome_some]
  rw [get_found, lifetime_put, hlifetime, put, if_pos ⟨henabled, htaken⟩, slot_putSlot, if_pos rfl,
    Option.bind_some, Option.filter_some]
  by_cases hfresh : later - now < lifetime
  · rw [if_pos (decide_eq_true hfresh), if_pos hfresh, Option.map_some]
  · rw [if_neg (by simpa using hfresh), if_neg hfresh, Option.map_none]

/-! ## Forgetting several products -/

@[simp]
theorem lifetime_invalidateMany (products : List ProductId) :
    (cache.invalidateMany products).lifetime = cache.lifetime := by
  induction products generalizing cache with
  | nil => rfl
  | cons product rest ih => exact (ih (cache.invalidate product)).trans (lifetime_invalidate ..)

/-- Each occurrence of a product starts one generation. -/
theorem generation_invalidateMany {cache : StockCache} (henabled : cache.isEnabled)
    (products : List ProductId) :
    (cache.invalidateMany products).generation sought =
      cache.generation sought + UInt64.ofNat (products.count sought) := by
  induction products generalizing cache with
  | nil => exact (UInt64.add_zero _).symm
  | cons product rest ih =>
    have hfirst : (cache.invalidate product).isEnabled := by rw [isEnabled_invalidate, henabled]
    have hrest := ih hfirst
    rw [generation_invalidate _ _ _ henabled] at hrest
    refine hrest.trans ?_
    by_cases hsame : product = sought
    · rw [if_pos hsame, hsame, List.count_cons_self, Nat.add_comm, UInt64.ofNat_add,
        UInt64.add_assoc]
      rfl
    · rw [if_neg hsame, List.count_cons_of_ne hsame]

theorem slot_invalidateMany_of_not_mem {products : List ProductId} (hother : sought ∉ products) :
    (cache.invalidateMany products).slot sought = cache.slot sought := by
  induction products generalizing cache with
  | nil => rfl
  | cons product rest ih =>
    refine (ih (cache.invalidate product) (List.not_mem_of_not_mem_cons hother)).trans ?_
    rw [invalidate]
    split
    · rw [slot_putSlot, if_neg (List.ne_of_not_mem_cons hother).symm]
    · rfl

theorem entry_of_invalidateMany {products : List ProductId} {entry : CacheEntry}
    (hentry : ((cache.invalidateMany products).slot sought).entry = some entry) :
    (cache.slot sought).entry = some entry ∧ (cache.isEnabled → sought ∉ products) := by
  induction products generalizing cache with
  | nil => exact ⟨hentry, fun _ => List.not_mem_nil⟩
  | cons product rest ih =>
    obtain ⟨hfirst, hrest⟩ := ih (cache.invalidate product) hentry
    obtain ⟨hbefore, hother⟩ := entry_of_invalidate _ _ _ hfirst
    refine ⟨hbefore, fun henabled => ?_⟩
    rw [isEnabled_invalidate] at hrest
    exact List.not_mem_cons_of_ne_of_not_mem (hother henabled).symm (hrest henabled)

theorem invalidateMany_of_disabled {cache : StockCache} (hdisabled : cache.isEnabled = false)
    (products : List ProductId) : cache.invalidateMany products = cache := by
  induction products with
  | nil => rfl
  | cons product rest ih =>
    have hfirst : cache.invalidate product = cache := if_neg (Bool.eq_false_iff.1 hdisabled)
    rw [invalidateMany, List.foldl_cons, hfirst]
    exact ih

theorem get_after_invalidateMany {cache : StockCache} {products : List ProductId}
    {sought : ProductId} (henabled : cache.isEnabled) (hforgotten : sought ∈ products)
    (later : Nat) : ((cache.invalidateMany products).get sought later).1 = none := by
  refine Option.eq_none_iff_forall_ne_some.2 fun record hfound => ?_
  obtain ⟨entry, hentry, _⟩ := entry_of_found _ _ hfound
  exact (entry_of_invalidateMany _ _ hentry).2 henabled hforgotten

/-- Forgetting products in another order leaves the same cache. -/
theorem invalidate_comm (one other : ProductId) :
    (cache.invalidate one).invalidate other = (cache.invalidate other).invalidate one := by
  by_cases hsame : one = other
  · rw [hsame]
  · cases henabled : cache.isEnabled with
    | false => simp only [invalidate, henabled, Bool.false_eq_true, if_false]
    | true =>
      have hone : (cache.invalidate one).generation other = cache.generation other := by
        rw [generation_invalidate _ _ _ henabled, if_neg hsame]
      have hother : (cache.invalidate other).generation one = cache.generation one := by
        rw [generation_invalidate _ _ _ henabled, if_neg (Ne.symm hsame)]
      have hforget (cache : StockCache) (product : ProductId) (hcache : cache.isEnabled = true) :
          cache.invalidate product =
            cache.putSlot product ⟨cache.generation product + 1, none⟩ := if_pos hcache
      rw [hforget (cache.invalidate one) other (by rw [isEnabled_invalidate, henabled]), hone,
        hforget (cache.invalidate other) one (by rw [isEnabled_invalidate, henabled]), hother,
        hforget cache one henabled, hforget cache other henabled]
      simp only [putSlot, SortedMap.insert_comm _ hsame]

end Stockroom.StockCache
