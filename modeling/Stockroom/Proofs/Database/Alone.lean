import Stockroom.Proofs.Database.TwoPhase

/-!
# Statements outside of transactions

A call that is no unit of work sends its statements outside of transactions.
They insert a record or a command, or they only read, and they lock no row.
-/

namespace Stockroom.Database

open Program (Conforms)

/-- A statement that the store sends outside of a transaction. -/
def Statement.StandsAlone : Statement → Prop
  | insertInventory row => ∃ record, row = (InventoryRow.ofRecord record).bound
  | insertProcessed _ => True
  | statement =>
    statement.isBoundary = false ∧ statement.isWrite = false ∧ statement.wanted = none

/-- Whatever is answered, only statements that stand alone are sent. -/
def alone : Protocol DatabaseRequest DatabaseRequest.Answer Unit where
  allows _ request :=
    match request with
    | .send statement => statement.StandsAlone
    | .connect | .present => True
  expects _ _ _ := True
  next _ _ _ := ()

/-- It locks no row. -/
theorem Statement.StandsAlone.wanted {statement : Statement} (halone : statement.StandsAlone) :
    statement.wanted = none := by
  cases statement <;> first | rfl | exact halone.2.2

theorem Statement.StandsAlone.inside {statement : Statement} (halone : statement.StandsAlone) :
    statement.isBoundary = false := by
  cases statement <;> first | rfl | exact halone.1

theorem create_alone (record : StockRecord) :
    Conforms alone (fun _ _ => True) (create record) () := by
  refine connect_bind trivial ?_ fun _ => trivial
  refine trySend_bind ⟨record, rfl⟩ fun answer => ?_
  cases answer with
  | ok row => exact ⟨trivial⟩
  | error failure =>
    dsimp only
    split <;> exact .throw trivial

theorem find_alone (product : ProductId) :
    Conforms alone (fun _ _ => True) (find product) () := by
  refine connect_bind trivial ?_ fun _ => trivial
  refine send_bind ⟨rfl, rfl, rfl⟩ (fun found => ?_) fun _ => trivial
  cases found with
  | none => exact .pure trivial
  | some row =>
    refine readRows_bind (fun row => ?_) fun _ => trivial
    exact convert_bind (fun record => .pure trivial) fun _ => trivial

theorem findMany_alone (products : List ProductId) :
    Conforms alone (fun _ _ => True) (findMany products) () := by
  rw [findMany]
  split
  · exact .pure trivial
  · refine connect_bind trivial ?_ fun _ => trivial
    refine send_bind ⟨rfl, rfl, rfl⟩ (fun rows => ?_) fun _ => trivial
    exact readRows_bind (fun rows => ⟨trivial⟩) fun _ => trivial

theorem lowStock_alone (threshold : Option Quantity) (request : PageRequest) :
    Conforms alone (fun _ _ => True) (lowStock threshold request) () := by
  refine connect_bind trivial ?_ fun _ => trivial
  refine send_bind ⟨rfl, rfl, rfl⟩ (fun total => ?_) fun _ => trivial
  refine send_bind ⟨rfl, rfl, rfl⟩ (fun rows => ?_) fun _ => trivial
  refine readRows_bind (fun rows => ?_) fun _ => trivial
  exact convert_bind (fun records => .pure trivial) fun _ => trivial

theorem loadReservations_alone (rows : List ReservationRow) :
    Conforms alone (fun _ _ => True) (loadReservations rows) () := by
  refine send_bind ⟨rfl, rfl, rfl⟩ (fun items => ?_) fun _ => trivial
  exact readRows_bind (fun items => ⟨trivial⟩) fun _ => trivial

theorem findReservation_alone (id : Uuid) :
    Conforms alone (fun _ _ => True) (findReservation id) () := by
  refine connect_bind trivial ?_ fun _ => trivial
  refine send_bind ⟨rfl, rfl, rfl⟩ (fun found => ?_) fun _ => trivial
  cases found with
  | none => exact .pure trivial
  | some row =>
    refine readRows_bind (fun row => ?_) fun _ => trivial
    exact (loadReservations_alone [row]).bind (fun _ _ _ => .pure trivial) fun _ _ _ => trivial

theorem overdue_alone (asOf : Instant) (limit : Nat) :
    Conforms alone (fun _ _ => True) (overdue asOf limit) () := by
  refine connect_bind trivial ?_ fun _ => trivial
  refine send_bind ⟨rfl, rfl, rfl⟩ (fun rows => ?_) fun _ => trivial
  exact readRows_bind (fun rows => loadReservations_alone rows) fun _ => trivial

theorem findProcessed_alone (key : String) :
    Conforms alone (fun _ _ => True) (findProcessed key) () := by
  refine connect_bind trivial ?_ fun _ => trivial
  refine send_bind ⟨rfl, rfl, rfl⟩ (fun found => ?_) fun _ => trivial
  cases found with
  | none => exact .pure trivial
  | some row =>
    refine readRows_bind (fun row => ?_) fun _ => trivial
    cases row.processedAt with
    | some processedAt => exact .pure trivial
    | none => exact ⟨trivial, fun _ _ => trivial⟩

theorem recordProcessed_alone (command : ProcessedCommand) :
    Conforms alone (fun _ _ => True) (recordProcessed command) () := by
  refine connect_bind trivial ?_ fun _ => trivial
  exact ⟨trivial, fun _ _ => trivial⟩

/-- A call is a unit of work, or all its statements stand alone. -/
theorem call_alone (lockTimeout : Nat) {call : StoreCall} (halone : call.work? = none) :
    Conforms alone (fun _ _ => True) (Database.call lockTimeout call) () := by
  cases call with
  | create record => exact create_alone record
  | find product => exact find_alone product
  | findMany products => exact findMany_alone products
  | lowStock threshold request => exact lowStock_alone threshold request
  | findReservation id => exact findReservation_alone id
  | overdue asOf limit => exact overdue_alone asOf limit
  | findProcessed key => exact findProcessed_alone key
  | recordProcessed command => exact recordProcessed_alone command
  | adjust _ _ _ | setThreshold _ _ _ | delete _ | reserve _ | resolve _ _ _ => cases halone

end Stockroom.Database
