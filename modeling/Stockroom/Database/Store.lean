import Stockroom.Database.ClientFailure
import Stockroom.Database.Connection
import Stockroom.Store.UnitOfWork

/-!
# The store in a database

Which statements answer a call of the store, and what is made of their results
and failures.  A unit of work is one transaction: it commits when the work is
done and rolls back when the work failed.
-/

namespace Stockroom

inductive DatabaseRequest where
  | connect
  | present
  | send (statement : Database.Statement)

abbrev DatabaseRequest.Answer : DatabaseRequest → Type
  | connect => Except StockError Unit
  | present => Instant
  | send statement => Except Database.Failure statement.Result

abbrev DatabaseProgram := Program DatabaseRequest DatabaseRequest.Answer

abbrev DatabaseCall := ExceptT StockError DatabaseProgram

namespace Database

/-- What the client reports of a failed statement. -/
def Failure.toClient : Failure → ClientFailure
  | .refused refusal =>
    if refusal.code = Refusal.uniqueCode then .uniqueViolation refusal.message
    else .other refusal.message
  | .lost => .other "connection closed"

/-- What a failed statement is to the caller of the store. -/
def Failure.toStockError (failure : Failure) : StockError :=
  failure.toClient.toStockError

def connect : DatabaseCall Unit :=
  let program : DatabaseProgram (Except StockError Unit) := Program.query DatabaseRequest.connect
  ExceptT.mk program

def present : DatabaseCall Instant :=
  let program : DatabaseProgram Instant := Program.query DatabaseRequest.present
  ExceptT.lift program

def trySend (statement : Statement) : DatabaseCall (Except Failure statement.Result) :=
  let program : DatabaseProgram (Except Failure statement.Result) :=
    Program.query (DatabaseRequest.send statement)
  ExceptT.lift program

def send (statement : Statement) : DatabaseCall statement.Result := do
  ExceptT.mk (pure ((← trySend statement).mapError Failure.toStockError))

def convert {α : Type} (result : Except StockError α) : DatabaseCall α :=
  ExceptT.mk (pure result)

/-- The rows that the client reads, which fails at an empty cell. -/
def readRows {α : Type} (rows : Option α) : DatabaseCall α :=
  match rows with
  | some rows => return rows
  | none => throw ClientFailure.emptyCell.toStockError

/-- Puts reservations together with the rows of their lines. -/
def assemble (items : List ItemRow) : List ReservationRow → Except StockError (List Reservation)
  | [] => .ok []
  | row :: rest => do
    let reservation ← row.toReservation (items.filter (·.reservation == row.id))
    return reservation :: (← assemble (items.filter (·.reservation != row.id)) rest)

def loadReservations (rows : List ReservationRow) : DatabaseCall (List Reservation) := do
  let items ← send (.itemsOf (rows.map (·.id)))
  convert (assemble (← readRows (items.mapM ItemCells.row?)) rows)

/-- Locks the record of a product. -/
def lockProduct (product : ProductId) : DatabaseCall StockRecord := do
  match ← send (.lockInventory product.text) with
  | some row => convert (← readRows row.row?).toRecord
  | none => throw (.productMissing product)

/-- Locks a reservation and loads its lines. -/
def lockReservation (id : Uuid) : DatabaseCall Reservation := do
  match ← send (.lockReservation id) with
  | none => throw (.reservationMissing id)
  | some row =>
    let row ← readRows row.row?
    let items ← send (.itemsOf [id])
    convert (row.toReservation (← readRows (items.mapM ItemCells.row?)))

def addReservation (reservation : Reservation) : DatabaseCall Unit := do
  send (.insertReservation (ReservationRow.ofReservation reservation).bound)
  let items ← convert (ItemRow.ofReservation reservation)
  send (.insertItems items)

/-- The statements that answer a request for a row. -/
def answerRow : (request : RowRequest) → DatabaseCall request.Value
  | .lockProduct product => lockProduct product
  | .lockReservation id => lockReservation id
  | .writeRecord record => send (.updateInventory (InventoryRow.ofRecord record).bound)
  | .removeProduct product => send (.deleteInventory product.text)
  | .addReservation reservation => addReservation reservation
  | .settleReservation reservation =>
    send (.settleReservation reservation.id reservation.status.word
      reservation.updatedAt.inColumn)

/-- The work inside a transaction. -/
def body {α : Type} (lockTimeout : Nat) (work : UnitOfWork α) : DatabaseCall α := do
  send (.setLockTimeout lockTimeout)
  ExceptT.mk (Program.interpret (fun request => (answerRow request).run) work.run)

/-- Runs a unit of work as one transaction. -/
def transact {α : Type} (lockTimeout : Nat) (work : UnitOfWork α) : DatabaseCall α := do
  connect
  send .begin
  let inside : DatabaseProgram (Except StockError α) := (body lockTimeout work).run
  match ← ExceptT.lift inside with
  | .ok value =>
    send .commit
    return value
  | .error error =>
    send .rollback
    throw error

/-- A product has at most one record. -/
def create (record : StockRecord) : DatabaseCall StockRecord := do
  connect
  match ← trySend (.insertInventory (InventoryRow.ofRecord record).bound) with
  | .ok row => convert row.toRecord
  | .error failure =>
    match failure.toClient with
    | .uniqueViolation _ => throw (.productExists record.product)
    | other => throw other.toStockError

def find (product : ProductId) : DatabaseCall (Option StockRecord) := do
  connect
  match ← send (.findInventory product.text) with
  | some row => return some (← convert (← readRows row.row?).toRecord)
  | none => return none

/-- Looking up no product sends nothing. -/
def findMany (products : List ProductId) : DatabaseCall (List StockRecord) := do
  if products.isEmpty then return []
  connect
  let rows ← send (.inventoryAmong (products.map ProductId.text))
  convert ((← readRows (rows.mapM InventoryCells.row?)).mapM InventoryRow.toRecord)

/-- An offset as the database receives it, in 64 bits. -/
def offsetColumn (offset : Nat) : Int :=
  (Int64.ofInt offset).toInt

def lowStock (threshold : Option Quantity) (request : PageRequest) : DatabaseCall Page := do
  connect
  let bound := threshold.map ofQuantity
  let total ← send (.countLowStock bound)
  let rows ← send (.lowStock bound request.limit (offsetColumn request.offset))
  let records ← convert ((← readRows (rows.mapM InventoryCells.row?)).mapM InventoryRow.toRecord)
  return ⟨records, total, request.page, request.limit⟩

def findReservation (id : Uuid) : DatabaseCall (Option Reservation) := do
  connect
  match ← send (.findReservation id) with
  | none => return none
  | some row => return (← loadReservations [← readRows row.row?]).getLast?

def overdue (asOf : Instant) (limit : Nat) : DatabaseCall (List Reservation) := do
  connect
  let rows ← send (.overdueReservations asOf.inColumn limit)
  loadReservations (← readRows (rows.mapM ReservationCells.row?))

/-- A command whose time was not recorded counts as processed at present. -/
def findProcessed (key : String) : DatabaseCall (Option ProcessedCommand) := do
  connect
  match ← send (.findProcessed key) with
  | none => return none
  | some row =>
    let row ← readRows row.row?
    match row.processedAt with
    | some processedAt => return some (row.toCommand processedAt)
    | none => return some (row.toCommand (← present))

def recordProcessed (command : ProcessedCommand) : DatabaseCall Unit := do
  connect
  send (.insertProcessed (ProcessedRow.ofCommand command).bound)

/-- Answers a call of the store. -/
def call (lockTimeout : Nat) : (call : StoreCall) → DatabaseCall call.Value
  | .create record => create record
  | .find product => find product
  | .findMany products => findMany products
  | .adjust product adjustment now =>
    transact lockTimeout (UnitOfWork.adjust product adjustment now)
  | .setThreshold product threshold now =>
    transact lockTimeout (UnitOfWork.setThreshold product threshold now)
  | .delete product => transact lockTimeout (UnitOfWork.delete product)
  | .lowStock threshold request => lowStock threshold request
  | .reserve reservation => transact lockTimeout (UnitOfWork.reserve reservation)
  | .resolve id resolution now => transact lockTimeout (UnitOfWork.resolve id resolution now)
  | .findReservation id => findReservation id
  | .overdue asOf limit => overdue asOf limit
  | .findProcessed key => findProcessed key
  | .recordProcessed command => recordProcessed command

/-- Connects unless a connection stands; an unreachable database is waited for in vain. -/
def establish (database : Database) : Except StockError Unit × Database :=
  if database.connected then (.ok (), database)
  else if database.reachable then (.ok (), { database with connected := true })
  else (.error PoolFailure.timedOut.toStockError, database)

/-- Answers one request, interfering with a statement as told. -/
def answer (interference : Statement → Interference) (now : Instant) :
    (request : DatabaseRequest) → Database → request.Answer × Database
  | .connect, database => database.establish
  | .present, database => (now, database)
  | .send statement, database => database.run (interference statement) statement

end Database

end Stockroom
