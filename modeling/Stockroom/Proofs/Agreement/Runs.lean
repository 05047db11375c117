import Stockroom.Proofs.Database.Overdue
import Stockroom.Proofs.Database.RowOrder
import Stockroom.Proofs.Service.Operation

/-!
# The service over a database

The service runs over a database as it runs over the store in memory.  A
sequence of operations is carried out over both, with the same clocks and the
same supply of ids.

Neither store promises in which order it keeps what it holds.  The one in
memory may meet its reservations in any order when it lists what is overdue,
and the rows of the database may come to stand in another order before each
request.
-/

namespace Stockroom

/-- A service over a database that nothing interferes with. -/
structure DatabaseService where
  database : Database
  lockTimeout : Nat
  around : Surroundings

/-- What an operation depends on besides its arguments: what the clocks show at each request, in
which order reservations are met in memory, and in which order the database keeps its rows at each
request. -/
structure Circumstances where
  readings : Nat → ClockReading
  listing : Listing
  rows : Nat → Database.RowOrder

namespace DatabaseService

/-- A service over empty tables, with an empty cache. -/
def start (lockTimeout : Nat) (lifetime : Option Nat) (clock : Instant) (supply : Nat → Uuid) :
    DatabaseService :=
  ⟨.empty, lockTimeout, .start lifetime clock supply⟩

def answer : (request : ServiceRequest) → DatabaseService → request.Answer × DatabaseService
  | .store call, service =>
    let (answer, database) := Database.perform service.around.wallClock
      (Database.call service.lockTimeout call) service.database
    (answer, { service with database := database })
  | .aside request, service =>
    let (answer, around) := Surroundings.answer request service.around
    (answer, { service with around := around })

def atReading (service : DatabaseService) (reading : ClockReading) : DatabaseService :=
  { service with around := service.around.atReading reading }

def arranged (service : DatabaseService) (order : Database.RowOrder) : DatabaseService :=
  { service with database := service.database.arranged order }

/-- Answers a request after setting the clocks; the second part of the state counts requests. -/
def answerTimed (readings : Nat → ClockReading) (request : ServiceRequest)
    (state : DatabaseService × Nat) : request.Answer × DatabaseService × Nat :=
  let (answer, service) := answer request (state.1.atReading (readings state.2))
  (answer, service, state.2 + 1)

end DatabaseService

namespace MemoryService

/-- Answers a request as `answerTimed` does, but meets reservations in an order of its own when it
lists what is overdue. -/
def answerListing (listing : Listing) (readings : Nat → ClockReading) :
    (request : ServiceRequest) → MemoryService × Nat → request.Answer × MemoryService × Nat
  | .store (.overdue asOf limit), state =>
    (.ok (listing.found state.1.store asOf limit), state.1.atReading (readings state.2),
      state.2 + 1)
  | request, state => answerTimed readings request state

theorem answerListing_byId (readings : Nat → ClockReading) :
    answerListing .byId readings = answerTimed readings := by
  funext request state
  cases request with
  | store call => cases call <;> rfl
  | aside request => rfl

end MemoryService

namespace Circumstances

/-- Reservations are met in the order of their ids, and rows stay where they were put. -/
def plain (readings : Nat → ClockReading) : Circumstances :=
  ⟨readings, .byId, fun _ => .kept⟩

variable (given : Circumstances)

/-- Answers a request in memory. -/
def answer : (request : ServiceRequest) → MemoryService × Nat →
    request.Answer × MemoryService × Nat :=
  MemoryService.answerListing given.listing given.readings

/-- Answers a request over a database. -/
def answerStored (request : ServiceRequest) (state : DatabaseService × Nat) :
    request.Answer × DatabaseService × Nat :=
  DatabaseService.answerTimed given.readings request
    (state.1.arranged (given.rows state.2), state.2)

end Circumstances

/-- An operation over stores that are free to order what they hold. -/
structure FreeStep where
  operation : Operation
  given : Circumstances

namespace FreeStep

variable (settings : ServiceSettings) (step : FreeStep)

/-- The result of an operation in memory, and the service after it. -/
def perform (service : MemoryService) :
    Except CallFailure step.operation.Value × MemoryService :=
  let ended := Program.run step.given.answer (step.operation.call settings).run (service, 0)
  (ended.1, ended.2.1)

/-- The result of an operation over a database, and the service after it. -/
def performStored (service : DatabaseService) :
    Except CallFailure step.operation.Value × DatabaseService :=
  let ended := Program.run step.given.answerStored (step.operation.call settings).run (service, 0)
  (ended.1, ended.2.1)

end FreeStep

def Step.plain (step : Step) : FreeStep :=
  ⟨step.operation, .plain step.readings⟩

theorem FreeStep.perform_plain (settings : ServiceSettings) (step : Step) :
    step.plain.perform settings = step.perform settings := by
  funext service
  change ((Program.run (MemoryService.answerListing .byId step.readings)
      (step.operation.call settings).run (service, 0)).1,
    (Program.run (MemoryService.answerListing .byId step.readings)
      (step.operation.call settings).run (service, 0)).2.1) = _
  rw [MemoryService.answerListing_byId]
  rfl

/-- The service in memory after a sequence of operations. -/
def MemoryService.afterFree (settings : ServiceSettings) (service : MemoryService) :
    List FreeStep → MemoryService
  | [] => service
  | step :: rest => afterFree settings (step.perform settings service).2 rest

/-- Where reservations are met by their ids, this is the sequence of the operations alone. -/
theorem MemoryService.afterFree_plain (settings : ServiceSettings) (service : MemoryService)
    (steps : List Step) :
    service.afterFree settings (steps.map Step.plain) = service.after settings steps := by
  induction steps generalizing service with
  | nil => rfl
  | cons step rest ih =>
    rw [List.map_cons, afterFree, FreeStep.perform_plain]
    exact ih _

/-- The service over a database after a sequence of operations. -/
def DatabaseService.after (settings : ServiceSettings) (service : DatabaseService) :
    List FreeStep → DatabaseService
  | [] => service
  | step :: rest => after settings (step.performStored settings service).2 rest

/-- What is known of a service in the end: its database refused nothing but for a key or a check,
and it drew no id twice. -/
structure DatabaseService.Orderly (service : DatabaseService) : Prop where
  served : service.database.Served
  fresh : service.around.drawnIds.Nodup

/-! ## What was known before -/

theorem Surroundings.drawnIds_succ (around : Surroundings) :
    { around with drawn := around.drawn + 1 }.drawnIds =
      around.drawnIds ++ [around.supply around.drawn] := by
  rw [drawnIds, List.range_succ, List.map_append]
  rfl

theorem Surroundings.prefix_drawnIds (request : LocalRequest) (around : Surroundings) :
    around.drawnIds <+: (answer request around).2.drawnIds := by
  cases request with
  | freshId =>
    change around.drawnIds <+: { around with drawn := around.drawn + 1 }.drawnIds
    rw [drawnIds_succ]
    exact List.prefix_append _ _
  | _ => exact List.prefix_rfl

namespace DatabaseService

theorem orderly_of_answer {request : ServiceRequest} {service : DatabaseService}
    (horderly : (answer request service).2.Orderly) : service.Orderly := by
  cases request with
  | store call => exact ⟨horderly.served.of_perform, horderly.fresh⟩
  | aside request =>
    exact ⟨horderly.served,
      (Surroundings.prefix_drawnIds request service.around).sublist.nodup horderly.fresh⟩

theorem orderly_of_answerTimed {readings : Nat → ClockReading} {request : ServiceRequest}
    {state : DatabaseService × Nat} (horderly : (answerTimed readings request state).2.1.Orderly) :
    state.1.Orderly := by
  obtain ⟨hserved, hfresh⟩ := orderly_of_answer horderly
  exact ⟨hserved, hfresh⟩

theorem orderly_of_answerStored {given : Circumstances} {request : ServiceRequest}
    {state : DatabaseService × Nat} (horderly : (given.answerStored request state).2.1.Orderly) :
    state.1.Orderly := by
  obtain ⟨hserved, hfresh⟩ := orderly_of_answerTimed horderly
  exact ⟨hserved, hfresh⟩

/-- What was orderly after a program was so before it. -/
theorem orderly_of_run {α : Type} {given : Circumstances} {program : ServiceProgram α}
    {state : DatabaseService × Nat}
    (horderly : (program.run given.answerStored state).2.1.Orderly) : state.1.Orderly := by
  have hstays (request : ServiceRequest) (state : DatabaseService × Nat)
      (hnot : ¬ state.1.Orderly) : ¬ (given.answerStored request state).2.1.Orderly :=
    fun hafter => hnot (orderly_of_answerStored hafter)
  by_contra hnot
  exact @Program.run_keeps _ _ _ _ _ (fun state : DatabaseService × Nat => ¬ state.1.Orderly) hstays
    program _ hnot horderly

theorem orderly_of_after {settings : ServiceSettings} {service : DatabaseService}
    {steps : List FreeStep} (horderly : (service.after settings steps).Orderly) :
    service.Orderly := by
  induction steps generalizing service with
  | nil => exact horderly
  | cons step rest ih => exact orderly_of_run (ih horderly)

end DatabaseService

end Stockroom
