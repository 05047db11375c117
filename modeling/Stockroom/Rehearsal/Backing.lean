import Stockroom.Rehearsal.Fault
import Stockroom.Service.Surroundings
import Stockroom.Wire.Reservation
import Stockroom.Wire.Stock

/-!
# The store behind a rehearsal

A rehearsed service runs over the store in memory or over a database, and what
it leaves there can be looked at from outside.
-/

namespace Stockroom.Rehearsal

inductive Backing where
  | memory (store : MemoryStore)
  | database (faulty : FaultyDatabase) (lockTimeout : Nat)

namespace Backing

/-- Answers a call of the store. -/
def answer (now : Instant) (call : StoreCall) : Backing → call.Answer × Backing
  | .memory store =>
    let (answer, store) := MemoryStore.answer call store
    (answer, .memory store)
  | .database faulty lockTimeout =>
    let (answer, faulty) :=
      Program.run (FaultyDatabase.answer now) (Database.call lockTimeout call).run faulty
    (answer, .database faulty lockTimeout)

/-- The statements that were sent since they were last forgotten. -/
def sent : Backing → List Database.Sent
  | .memory _ => []
  | .database faulty _ => faulty.database.sent

def forgetSent : Backing → Backing
  | .memory store => .memory store
  | .database faulty lockTimeout =>
    .database { faulty with database := { faulty.database with sent := [] } } lockTimeout

/-- What changes from step to step of a record. -/
def recordState (record : StockRecord) : Json :=
  .array [record.available.toJson, record.reserved.toJson, record.lowStockThreshold.toJson,
    .ofOption Instant.toJson record.lastRestock, record.updatedAt.toJson]

def reservationState (reservation : Reservation) : Json :=
  .array [reservation.status.toJson, reservation.updatedAt.toJson]

def recordRowState (row : Database.InventoryCells) : Json :=
  .array [.ofOption Database.int32ToJson row.available,
    .ofOption Database.int32ToJson row.reserved,
    .ofOption Database.int32ToJson row.lowStockThreshold,
    .ofOption Instant.toJson row.lastRestock, .ofOption Instant.toJson row.updatedAt]

def reservationRowState (row : Database.ReservationCells) : Json :=
  .array [.ofOption .string row.status, .ofOption Instant.toJson row.updatedAt]

def productName (product : String) : String :=
  "product " ++ product

def reservationName (id : Uuid) : String :=
  "reservation " ++ id.text

/-- The state of every product and every reservation by its name. -/
def states : Backing → List (String × Json)
  | .memory store =>
    store.inventory.values.map (fun record =>
      (productName record.product.text, recordState record)) ++
    store.reservations.values.map (fun reservation =>
      (reservationName reservation.id, reservationState reservation))
  | .database faulty _ =>
    faulty.database.tables.inventory.filterMap (fun row =>
      row.product.map (fun product => (productName product, recordRowState row))) ++
    faulty.database.tables.reservations.filterMap (fun row =>
      row.id.map (fun id => (reservationName id, reservationRowState row)))

/-- The states with one entry for each name, that of its last row.  A product that is watched
has an entry even if there is no record of it. -/
def entries (watched : List String) (backing : Backing) : List (String × Json) :=
  (Json.ofMembers (watched.map (fun product => (productName product, .null)) ++
    backing.states)).members

/-- The entries that differ from those before, where an entry that was not there was null. -/
def changes (before after : List (String × Json)) : List (String × Json) :=
  after.filter (fun entry => !((before.lookup entry.1).getD .null).isWrittenAs entry.2)

end Backing

end Stockroom.Rehearsal
