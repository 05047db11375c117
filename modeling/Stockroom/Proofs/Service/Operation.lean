import Stockroom.Service.Surroundings
import Stockroom.Sweep

/-!
# Operations of the service

Every operation that the service offers, with its arguments, and what a
sequence of operations leads to when they are carried out one after another
over the store in memory.  Time may pass between any two requests.
-/

namespace Stockroom

inductive Operation where
  | create (product : String) (initial threshold : Option Int)
  | get (product : String)
  | check (product : String) (quantity : Option Int)
  | bulkCheck (lines : List CheckLine)
  | adjust (product kind : String) (quantity : Int)
  | setThreshold (product : String) (threshold : Int)
  | delete (product : String)
  | lowStock (threshold : Option Int) (request : PageRequest)
  | reserve (orderId : String) (lines : List RequestedLine)
  | confirm (id : Uuid)
  | release (id : Uuid)
  | expire (id : Uuid) (now : Instant)
  | getReservation (id : Uuid)
  | overdue (asOf : Instant) (limit : Nat)
  | sweep (now : Instant) (batch : Nat)

namespace Operation

abbrev Value : Operation → Type
  | create _ _ _ | get _ | adjust _ _ _ | setThreshold _ _ => StockRecord
  | check _ _ => Availability
  | bulkCheck _ => List Availability
  | delete _ => Unit
  | lowStock _ _ => Page
  | reserve _ _ | getReservation _ => Reservation
  | confirm _ | release _ | expire _ _ => Outcome
  | overdue _ _ => List Reservation
  | sweep _ _ => SweepReport

/-- The call of the service that carries an operation out. -/
def call (settings : ServiceSettings) : (operation : Operation) → ServiceCall operation.Value
  | .create product initial threshold => Service.create product initial threshold
  | .get product => Service.get product
  | .check product quantity => Service.check product quantity
  | .bulkCheck lines => Service.bulkCheck lines
  | .adjust product kind quantity => Service.adjust product kind quantity
  | .setThreshold product threshold => Service.setThreshold product threshold
  | .delete product => Service.delete product
  | .lowStock threshold request => Service.lowStock threshold request
  | .reserve orderId lines => Service.reserve settings orderId lines
  | .confirm id => Service.confirm id
  | .release id => Service.release id
  | .expire id now => Service.expire id now
  | .getReservation id => Service.getReservation id
  | .overdue asOf limit => Service.overdue asOf limit
  | .sweep now batch => Sweep.once now batch

end Operation

/-- What the clocks show at one moment. -/
structure ClockReading where
  ticks : Nat
  clock : Instant
  wallClock : Instant

def Surroundings.atReading (around : Surroundings) (reading : ClockReading) : Surroundings :=
  { around with ticks := reading.ticks, clock := reading.clock, wallClock := reading.wallClock }

namespace MemoryService

/-- A service over an empty store, with an empty cache. -/
def start (lifetime : Option Nat) (clock : Instant) (supply : Nat → Uuid) : MemoryService :=
  ⟨.empty, .start lifetime clock supply⟩

def atReading (service : MemoryService) (reading : ClockReading) : MemoryService :=
  { service with around := service.around.atReading reading }

/-- Answers a request after setting the clocks; the second part of the state counts requests. -/
def answerTimed (readings : Nat → ClockReading) (request : ServiceRequest)
    (state : MemoryService × Nat) : request.Answer × MemoryService × Nat :=
  let (answer, service) := MemoryService.answer request (state.1.atReading (readings state.2))
  (answer, service, state.2 + 1)

end MemoryService

/-- One operation of a sequence, with what the clocks show at each of its requests. -/
structure Step where
  operation : Operation
  readings : Nat → ClockReading

namespace Step

/-- The result of an operation, and the service after it. -/
def perform (settings : ServiceSettings) (step : Step) (service : MemoryService) :
    Except CallFailure step.operation.Value × MemoryService :=
  let ended := Program.run (MemoryService.answerTimed step.readings)
    (step.operation.call settings).run (service, 0)
  (ended.1, ended.2.1)

/-- If the operation draws an id for a reservation, no stored reservation has it. -/
def DrawsFresh (service : MemoryService) (step : Step) : Prop :=
  match step.operation with
  | .reserve _ lines => ∀ checked, lines.mapM Service.reservationLine = .ok checked →
      service.store.reservations.find? (service.around.supply service.around.drawn) = none
  | _ => True

end Step

namespace MemoryService

/-- The service after a sequence of operations. -/
def after (settings : ServiceSettings) (service : MemoryService) : List Step → MemoryService
  | [] => service
  | step :: rest => after settings (step.perform settings service).2 rest

/-- Every reservation id that a sequence of operations draws is fresh. -/
def DrawsFresh (settings : ServiceSettings) (service : MemoryService) : List Step → Prop
  | [] => True
  | step :: rest =>
    step.DrawsFresh service ∧ DrawsFresh settings (step.perform settings service).2 rest

end MemoryService

end Stockroom
