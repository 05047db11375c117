import Stockroom.Availability
import Stockroom.Command
import Stockroom.Service.Request

/-!
# The stock service

The operations offered to orders and to the sweeper.  Arguments are checked
before the store is asked, and every product whose stock may have changed is
forgotten by the cache after the store has answered.
-/

namespace Stockroom

/-- How long a reservation holds its stock. -/
structure ServiceSettings where
  holdFor : Duration
deriving DecidableEq, Repr

namespace Service

/-- Fails when a rule was violated. -/
def obey {α : Type} (result : Except Violation α) : ServiceCall α :=
  ExceptT.mk (pure (result.mapError (fun violation => .stock (.violation violation))))

def refuse {α : Type} (error : StockError) : ServiceCall α :=
  throw (.stock error)

/-- The quantity of an argument that may be left out. -/
def quantityOr (fallback : Quantity) : Option Int → Except Violation Quantity
  | some value => Quantity.ofInt value
  | none => .ok fallback

/-- A check asks for one unit unless it says otherwise. -/
def requestedQuantity : Option Int → Except Violation Quantity
  | some value => Quantity.positive value
  | none => .ok .one

def create (product : String) (initial threshold : Option Int) : ServiceCall StockRecord := do
  let product ← obey (ProductId.ofText product)
  let initial ← obey (quantityOr .zero initial)
  let threshold ← obey (quantityOr StockRecord.defaultThreshold threshold)
  let id ← ServiceCall.aside .freshId
  let now ← ServiceCall.aside .now
  let created ← ServiceCall.store (.create (StockRecord.create id product initial threshold now))
  ServiceCall.aside (.forget created.product)
  return created

/-- The record of a product, from the cache if it knows, else from the store. -/
def lookup (product : ProductId) : ServiceCall (Option StockRecord) := do
  match ← ServiceCall.aside (.cached product) with
  | some record => return record
  | none =>
    let generation ← ServiceCall.aside (.generation product)
    let record ← ServiceCall.store (.find product)
    ServiceCall.aside (.remember product record generation)
    return record

def get (product : String) : ServiceCall StockRecord := do
  let product ← obey (ProductId.ofText product)
  match ← lookup product with
  | some record => return record
  | none => refuse (.productMissing product)

/-- A missing product is reported as not available. -/
def check (product : String) (quantity : Option Int) : ServiceCall Availability := do
  let product ← obey (ProductId.ofText product)
  let requested ← obey (requestedQuantity quantity)
  return Availability.ofRecord? product requested (← lookup product)

def checkLine (line : CheckLine) : Except Violation (ProductId × Quantity) := do
  return (← ProductId.ofText line.product, ← requestedQuantity line.quantity)

/-- The products in the order of their first appearance. -/
def distinct : List ProductId → List ProductId
  | [] => []
  | product :: rest => product :: (distinct rest).filter (· ≠ product)

/-- Records that are known by now, by product. -/
abbrev KnownRecords := List (ProductId × Option StockRecord)

/-- Asks the cache for each product, and says which products it does not know. -/
def consultCache : List ProductId → ServiceCall (KnownRecords × List ProductId)
  | [] => return ([], [])
  | product :: rest => do
    let cached ← ServiceCall.aside (.cached product)
    let (known, missing) ← consultCache rest
    return match cached with
      | some record => ((product, record) :: known, missing)
      | none => (known, product :: missing)

def takeGenerations : List ProductId → ServiceCall (List UInt64)
  | [] => return []
  | product :: rest => do
    let generation ← ServiceCall.aside (.generation product)
    return generation :: (← takeGenerations rest)

/-- Remembers what one batched lookup found, an absent product too. -/
def rememberAll (found : List StockRecord) :
    List (ProductId × UInt64) → ServiceCall KnownRecords
  | [] => return []
  | (product, generation) :: rest => do
    let record := found.reverse.find? (·.product == product)
    ServiceCall.aside (.remember product record generation)
    return (product, record) :: (← rememberAll found rest)

/-- Looks up the products that the cache did not know, all at once. -/
def lookupMissing (missing : List ProductId) : ServiceCall KnownRecords := do
  if missing.isEmpty then return []
  let generations ← takeGenerations missing
  let found ← ServiceCall.store (.findMany missing)
  rememberAll found (missing.zip generations)

/-- Answers every line, in the order of the lines, with one lookup over the distinct products. -/
def bulkCheck (lines : List CheckLine) : ServiceCall (List Availability) := do
  let lines ← obey (lines.mapM checkLine)
  let (cached, missing) ← consultCache (distinct (lines.map Prod.fst))
  let known := cached ++ (← lookupMissing missing)
  return lines.map (fun (product, requested) =>
    Availability.ofRecord? product requested ((known.lookup product).getD none))

def adjust (product kind : String) (quantity : Int) : ServiceCall StockRecord := do
  let product ← obey (ProductId.ofText product)
  let adjustment ← obey (Adjustment.ofText kind quantity)
  let now ← ServiceCall.aside .now
  let updated ← ServiceCall.store (.adjust product adjustment now)
  ServiceCall.aside (.forget product)
  return updated

def setThreshold (product : String) (threshold : Int) : ServiceCall StockRecord := do
  let product ← obey (ProductId.ofText product)
  let threshold ← obey (Quantity.ofInt threshold)
  let now ← ServiceCall.aside .now
  let updated ← ServiceCall.store (.setThreshold product threshold now)
  ServiceCall.aside (.forget product)
  return updated

def delete (product : String) : ServiceCall Unit := do
  let product ← obey (ProductId.ofText product)
  ServiceCall.store (.delete product)
  ServiceCall.aside (.forget product)

def lowStock (threshold : Option Int) (request : PageRequest) : ServiceCall Page := do
  if request.page < 1 then refuse .pageTooSmall
  if request.limit < 1 ∨ StockError.maximumPageLimit < request.limit then refuse .limitOutOfRange
  let threshold ← obey (threshold.mapM Quantity.ofInt)
  ServiceCall.store (.lowStock threshold request)

def reservationLine (line : RequestedLine) : Except Violation ReservationLine := do
  return ⟨← ProductId.ofText line.product, ← Quantity.positive line.quantity⟩

/-- Forgets the products of a reservation, one after another. -/
def forgetLines : List ReservationLine → ServiceCall Unit
  | [] => return
  | line :: rest => do
    ServiceCall.aside (.forget line.product)
    forgetLines rest

/-- Holds stock for every line of an order, or for none of them. -/
def reserve (settings : ServiceSettings) (orderId : String) (lines : List RequestedLine) :
    ServiceCall Reservation := do
  let lines ← obey (lines.mapM reservationLine)
  let id ← ServiceCall.aside .freshId
  let now ← ServiceCall.aside .now
  match Reservation.make id orderId lines settings.holdFor now with
  | .error (.violation violation) => refuse (.violation violation)
  | .error .deadlineOutOfRange => throw .deadlineOutOfRange
  | .ok reservation =>
    let reservation ← ServiceCall.store (.reserve reservation)
    forgetLines reservation.lines
    return reservation

def resolve (id : Uuid) (resolution : Resolution) (now : Instant) : ServiceCall Outcome := do
  let outcome ← ServiceCall.store (.resolve id resolution now)
  if outcome.wasApplied then forgetLines outcome.reservation.lines
  return outcome

def confirm (id : Uuid) : ServiceCall Outcome := do
  resolve id .confirm (← ServiceCall.aside .now)

def release (id : Uuid) : ServiceCall Outcome := do
  resolve id .release (← ServiceCall.aside .now)

/-- Expires a reservation as of the instant at which a sweep started. -/
def expire (id : Uuid) (now : Instant) : ServiceCall Outcome :=
  resolve id .expire now

def getReservation (id : Uuid) : ServiceCall Reservation := do
  match ← ServiceCall.store (.findReservation id) with
  | some reservation => return reservation
  | none => refuse (.reservationMissing id)

def overdue (asOf : Instant) (limit : Nat) : ServiceCall (List Reservation) :=
  ServiceCall.store (.overdue asOf limit)

end Service

end Stockroom
