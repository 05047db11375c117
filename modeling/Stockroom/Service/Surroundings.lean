import Stockroom.Service.Request
import Stockroom.Store.Memory

/-!
# Running the service

What the service finds around itself besides its store: the cache with its
clock, the clock on the wall, a clock that may be set, and a supply of ids.
-/

namespace Stockroom

structure Surroundings where
  cache : StockCache
  ticks : Nat
  clock : Instant
  wallClock : Instant
  supply : Nat → Uuid
  drawn : Nat

namespace Surroundings

/-- Surroundings with an empty cache at a point in time. -/
def start (lifetime : Option Nat) (clock : Instant) (supply : Nat → Uuid) : Surroundings where
  cache := .create lifetime
  ticks := 0
  clock := clock
  wallClock := clock
  supply := supply
  drawn := 0

/-- All ids that the supply has given out. -/
def drawnIds (around : Surroundings) : List Uuid :=
  (List.range around.drawn).map around.supply

/-- Answers what is asked of everything but the store. -/
def answer : (request : LocalRequest) → Surroundings → request.Answer × Surroundings
  | .cached product, around =>
    let (found, cache) := around.cache.get product around.ticks
    (found, { around with cache := cache })
  | .generation product, around => (around.cache.generation product, around)
  | .remember product record generation, around =>
    ((), { around with cache := around.cache.put product record generation around.ticks })
  | .forget product, around => ((), { around with cache := around.cache.invalidate product })
  | .now, around => (around.clock, around)
  | .wallClock, around => (around.wallClock, around)
  | .freshId, around => (around.supply around.drawn, { around with drawn := around.drawn + 1 })

end Surroundings

/-- A service over the store in memory. -/
structure MemoryService where
  store : MemoryStore
  around : Surroundings

namespace MemoryService

def answer : (request : ServiceRequest) → MemoryService → request.Answer × MemoryService
  | .store call, service =>
    let (answer, store) := MemoryStore.answer call service.store
    (answer, { service with store := store })
  | .aside request, service =>
    let (answer, around) := Surroundings.answer request service.around
    (answer, { service with around := around })

/-- Runs a call of the service to its end. -/
def perform {α : Type} (call : ServiceCall α) (service : MemoryService) :
    Except CallFailure α × MemoryService :=
  Program.run answer call.run service

end MemoryService

end Stockroom
