import Stockroom.Sorting
import Stockroom.Store.UnitOfWork

/-!
# The store in memory

Records by product, reservations by id and processed commands by key.  A unit
of work writes last and its writes cannot fail, so one that fails has written
nothing.
-/

namespace Stockroom

structure MemoryStore where
  inventory : SortedMap ProductId StockRecord
  reservations : SortedMap Uuid Reservation
  processed : SortedMap String ProcessedCommand

namespace MemoryStore

def empty : MemoryStore := ⟨.empty, .empty, .empty⟩

instance : Inhabited MemoryStore :=
  ⟨empty⟩

/-- Reads or writes one row. -/
def answerRow : (request : RowRequest) → MemoryStore → request.Answer × MemoryStore
  | .lockProduct product, store =>
    (match store.inventory.find? product with
      | some record => .ok record
      | none => .error (.productMissing product), store)
  | .lockReservation id, store =>
    (match store.reservations.find? id with
      | some reservation => .ok reservation
      | none => .error (.reservationMissing id), store)
  | .writeRecord record, store =>
    (.ok (), { store with inventory := store.inventory.insert record.product record })
  | .removeProduct product, store =>
    (.ok (), { store with inventory := store.inventory.erase product })
  | .addReservation reservation, store =>
    (.ok (), { store with reservations := store.reservations.insert reservation.id reservation })
  | .settleReservation reservation, store =>
    (.ok (), { store with reservations := store.reservations.insert reservation.id reservation })

def perform {α : Type} (work : UnitOfWork α) (store : MemoryStore) :
    Except StockError α × MemoryStore :=
  Program.run answerRow work store

/-- A product has at most one record. -/
def create (record : StockRecord) (store : MemoryStore) :
    Except StockError StockRecord × MemoryStore :=
  if store.inventory.contains record.product then
    (.error (.productExists record.product), store)
  else
    (.ok record, { store with inventory := store.inventory.insert record.product record })

/-- The records of the products that have one, in the order of the products. -/
def findMany (store : MemoryStore) (products : List ProductId) : List StockRecord :=
  products.filterMap store.inventory.find?

/-- Whether a record is listed as low on stock, against one bound or against its own. -/
def isListed (threshold : Option Quantity) (record : StockRecord) : Bool :=
  record.isInStock && record.available ≤ threshold.getD record.lowStockThreshold

/-- The order of the low stock listing: by available units, then by product. -/
def listedBefore (left right : StockRecord) : Bool :=
  left.available < right.available ||
    (left.available == right.available && !(right.product < left.product))

def lowStockListing (store : MemoryStore) (threshold : Option Quantity) : List StockRecord :=
  Sorting.sort listedBefore (store.inventory.values.filter (isListed threshold))

/-- Pending reservations past their deadline, those that expired first coming first. -/
def overdue (store : MemoryStore) (asOf : Instant) (limit : Nat) : List Reservation :=
  let expired := store.reservations.values.filter
    (fun reservation => reservation.isPending && reservation.isExpired asOf)
  (Sorting.sort (fun left right => !(right.expiresAt < left.expiresAt)) expired).take limit

/-- A key is recorded once. -/
def recordProcessed (command : ProcessedCommand) (store : MemoryStore) :
    Except StockError Unit × MemoryStore :=
  if store.processed.contains command.key then
    (.error (.commandProcessed command.key), store)
  else
    (.ok (), { store with processed := store.processed.insert command.key command })

/-- Answers a call. -/
def answer : (call : StoreCall) → MemoryStore → call.Answer × MemoryStore
  | .create record, store => store.create record
  | .find product, store => (.ok (store.inventory.find? product), store)
  | .findMany products, store => (.ok (store.findMany products), store)
  | .adjust product adjustment now, store =>
    store.perform (UnitOfWork.adjust product adjustment now)
  | .setThreshold product threshold now, store =>
    store.perform (UnitOfWork.setThreshold product threshold now)
  | .delete product, store => store.perform (UnitOfWork.delete product)
  | .lowStock threshold request, store =>
    (.ok (Page.ofListing (store.lowStockListing threshold) request), store)
  | .reserve reservation, store => store.perform (UnitOfWork.reserve reservation)
  | .resolve id resolution now, store => store.perform (UnitOfWork.resolve id resolution now)
  | .findReservation id, store => (.ok (store.reservations.find? id), store)
  | .overdue asOf limit, store => (.ok (store.overdue asOf limit), store)
  | .findProcessed key, store => (.ok (store.processed.find? key), store)
  | .recordProcessed command, store => store.recordProcessed command

end MemoryStore

end Stockroom
