import Stockroom.SortedMap
import Stockroom.StockRecord

/-!
# The cache of stock lookups

A cache remembers for a while what the store last answered for a product, also
that it has no record.  Every invalidation starts a new generation of the
product.  A reader takes the generation before it reads the store and hands it
back with what it read, so that nothing read before an invalidation is
remembered after it.
-/

namespace Stockroom

/-- What is remembered of a product, and when it was stored. -/
structure CacheEntry where
  record : Option StockRecord
  storedAt : Nat
deriving DecidableEq

/-- The generation of a product outlives its entries. -/
structure CacheSlot where
  generation : UInt64
  entry : Option CacheEntry
deriving DecidableEq

def CacheSlot.fresh : CacheSlot := ⟨0, none⟩

/-- A cache with a lifetime of its entries; without one it remembers nothing.  Times are
counted in ticks of one clock. -/
structure StockCache where
  lifetime : Option Nat
  slots : SortedMap ProductId CacheSlot

namespace StockCache

/-- An empty cache; a lifetime of zero is none. -/
def create (lifetime : Option Nat) : StockCache :=
  ⟨lifetime.filter (· ≠ 0), .empty⟩

def isEnabled (cache : StockCache) : Bool :=
  cache.lifetime.isSome

def slot (cache : StockCache) (product : ProductId) : CacheSlot :=
  (cache.slots.find? product).getD .fresh

def putSlot (cache : StockCache) (product : ProductId) (slot : CacheSlot) : StockCache :=
  { cache with slots := cache.slots.insert product slot }

/-- What is remembered of a product.  An entry that has outlived its time is dropped. -/
def get (cache : StockCache) (product : ProductId) (now : Nat) :
    Option (Option StockRecord) × StockCache :=
  match cache.lifetime, (cache.slot product).entry with
  | some lifetime, some entry =>
    if now - entry.storedAt < lifetime then (some entry.record, cache)
    else (none, cache.putSlot product { cache.slot product with entry := none })
  | _, _ => (none, cache)

def generation (cache : StockCache) (product : ProductId) : UInt64 :=
  (cache.slot product).generation

/-- Remembers what was read, unless the product has been invalidated since `generation`. -/
def put (cache : StockCache) (product : ProductId) (record : Option StockRecord)
    (generation : UInt64) (now : Nat) : StockCache :=
  if cache.isEnabled ∧ cache.generation product = generation then
    cache.putSlot product ⟨generation, some ⟨record, now⟩⟩
  else cache

/-- Forgets a product and starts its next generation. -/
def invalidate (cache : StockCache) (product : ProductId) : StockCache :=
  if cache.isEnabled then
    cache.putSlot product ⟨cache.generation product + 1, none⟩
  else cache

def invalidateMany (cache : StockCache) (products : List ProductId) : StockCache :=
  products.foldl invalidate cache

/-- The number of products of which something is remembered. -/
def size (cache : StockCache) : Nat :=
  (cache.slots.values.filter (·.entry.isSome)).length

end StockCache

end Stockroom
