import Stockroom.Database.Store
import Stockroom.Proofs.Store.LockOrder

/-!
# Statements of a transaction

Whatever the database answers, the statements of a transaction take their locks
in the order of locks, all of them before the first write, and neither begin
nor end a transaction.
-/

namespace Stockroom

open Program (Conforms)

namespace Database

namespace Statement

/-- The row whose lock a statement waits for. -/
def wanted : Statement → Option LockedRow
  | lockInventory product => some (.product product)
  | lockReservation id => some (.reservation id)
  | _ => none

theorem isLock_eq (statement : Statement) : statement.isLock = statement.wanted.isSome := by
  cases statement <;> rfl

/-- Whether a statement begins or ends a transaction. -/
def isBoundary : Statement → Bool
  | begin | commit | rollback => true
  | _ => false

end Statement

/-- The statements that may be sent inside a transaction. -/
def inside : Protocol DatabaseRequest DatabaseRequest.Answer TwoPhase where
  allows stage request :=
    match request with
    | .send statement => statement.isBoundary = false ∧
      ∀ row, statement.wanted = some row → stage.MayLock row
    | _ => False
  expects _ _ _ := True
  next stage request _ :=
    match request with
    | .send statement =>
      match statement.wanted with
      | some row => stage.lock row
      | none => if statement.isWrite then stage.write else stage
    | _ => stage

/-- What was asked for stays asked for, and so is what a statement waits for. -/
theorem mem_asked_next {stage : TwoPhase} {statement : Statement} {row : LockedRow}
    (hrow : row ∈ stage.asked ∨ statement.wanted = some row)
    (answer : Except Failure statement.Result) :
    row ∈ (inside.next stage (.send statement) answer).asked := by
  cases hwanted : statement.wanted with
  | none =>
    have hkept : row ∈ stage.asked := hrow.resolve_right (by simp [hwanted])
    simp only [inside, hwanted]
    split <;> exact hkept
  | some wanted =>
    simp only [inside, hwanted]
    refine List.mem_append.2 (hrow.imp_right fun hrow => ?_)
    rw [hwanted, Option.some.injEq] at hrow
    exact List.mem_singleton.2 hrow.symm

section Constructs

variable {Stage α β : Type} {protocol : Protocol DatabaseRequest DatabaseRequest.Answer Stage}
  {post : Except StockError β → Stage → Prop} {stage : Stage}

theorem connect_bind {next : Unit → DatabaseCall β} (hallowed : protocol.allows stage .connect)
    (hnext : Conforms protocol post (next ()) (protocol.next stage .connect (.ok ())))
    (hfailed : ∀ error,
      post (.error error) (protocol.next stage .connect (.error error))) :
    Conforms protocol post (connect >>= next) stage := by
  refine ⟨hallowed, fun answer _ => ?_⟩
  cases answer with
  | ok value => exact hnext.run
  | error error => exact hfailed error

theorem send_bind {statement : Statement} {next : statement.Result → DatabaseCall β}
    (hallowed : protocol.allows stage (.send statement))
    (hnext : ∀ result, Conforms protocol post (next result)
      (protocol.next stage (.send statement) (.ok result)))
    (hfailed : ∀ failure, post (.error failure.toStockError)
      (protocol.next stage (.send statement) (.error failure))) :
    Conforms protocol post (send statement >>= next) stage := by
  refine ⟨hallowed, fun answer _ => ?_⟩
  cases answer with
  | ok result => exact (hnext result).run
  | error failure => exact hfailed failure

theorem trySend_bind {statement : Statement}
    {next : Except Failure statement.Result → DatabaseCall β}
    (hallowed : protocol.allows stage (.send statement))
    (hnext : ∀ answer, Conforms protocol post (next answer)
      (protocol.next stage (.send statement) answer)) :
    Conforms protocol post (trySend statement >>= next) stage :=
  ⟨hallowed, fun answer _ => (hnext answer).run⟩

theorem convert_bind {result : Except StockError α} {next : α → DatabaseCall β}
    (hnext : ∀ value, Conforms protocol post (next value) stage)
    (hfailed : ∀ error, post (.error error) stage) :
    Conforms protocol post (convert result >>= next) stage := by
  cases result with
  | ok value => exact ⟨(hnext value).run⟩
  | error error => exact ⟨hfailed error⟩

theorem readRows_bind {rows : Option α} {next : α → DatabaseCall β}
    (hnext : ∀ value, Conforms protocol post (next value) stage)
    (hfailed : ∀ error, post (.error error) stage) :
    Conforms protocol post (readRows rows >>= next) stage := by
  cases rows with
  | some value => exact ⟨(hnext value).run⟩
  | none => exact ⟨hfailed _⟩

end Constructs

/-- The statements for a row are what the request for the row is among the requests of a unit of
work. -/
theorem answerRow_inside {stage : TwoPhase} {request : RowRequest}
    (hallowed : TwoPhase.protocol.allows stage request) :
    Conforms inside (fun answered last => TwoPhase.protocol.next stage request answered = last)
      (answerRow request) stage := by
  cases request with
  | lockProduct product =>
    refine send_bind ⟨rfl, fun row hrow => hallowed row hrow⟩ (fun found => ?_) fun _ => rfl
    cases found with
    | none => exact .throw rfl
    | some row => exact readRows_bind (fun row => ⟨rfl⟩) fun _ => rfl
  | lockReservation id =>
    refine send_bind ⟨rfl, fun row hrow => hallowed row hrow⟩ (fun found => ?_) fun _ => rfl
    cases found with
    | none => exact .throw rfl
    | some row =>
      refine readRows_bind (fun row => ?_) fun _ => rfl
      refine send_bind ⟨rfl, nofun⟩ (fun items => ?_) fun _ => rfl
      exact readRows_bind (fun items => ⟨rfl⟩) fun _ => rfl
  | writeRecord record => exact ⟨⟨rfl, nofun⟩, fun _ _ => rfl⟩
  | removeProduct product => exact ⟨⟨rfl, nofun⟩, fun _ _ => rfl⟩
  | addReservation reservation =>
    refine send_bind ⟨rfl, nofun⟩ (fun _ => ?_) fun _ => rfl
    refine convert_bind (fun items => ?_) fun _ => rfl
    exact ⟨⟨rfl, nofun⟩, fun _ _ => rfl⟩
  | settleReservation reservation => exact ⟨⟨rfl, nofun⟩, fun _ _ => rfl⟩

/-- The body of a transaction sends what its unit of work asks for. -/
theorem body_inside {α : Type} {lockTimeout : Nat} {work : UnitOfWork α}
    {post : Except StockError α → TwoPhase → Prop}
    (hwork : Conforms TwoPhase.protocol post work .start)
    (hfailed : ∀ error, post (.error error) .start) :
    Conforms inside post (body lockTimeout work) .start := by
  refine send_bind ⟨rfl, nofun⟩ (fun _ => ⟨?_⟩) fun _ => hfailed _
  have hrow (stage place : TwoPhase) (request : RowRequest) (haligned : stage = place)
      (hallowed : TwoPhase.protocol.allows stage request) :
      (answerRow request).run.Follows inside (fun answered last =>
        True ∧ TwoPhase.protocol.next stage request answered = last) place := by
    cases haligned
    exact (answerRow_inside hallowed).run.mono fun _ _ hlast => ⟨trivial, hlast⟩
  refine (hwork.run.interpret (fun request => (answerRow request).run) Eq hrow rfl).mono ?_
  rintro result last ⟨stage, hpost, rfl⟩
  exact hpost

theorem call_of_work? (lockTimeout : Nat) {call : StoreCall} {work : UnitOfWork call.Value}
    (hwork : call.work? = some work) :
    Database.call lockTimeout call = transact lockTimeout work := by
  cases call <;> cases hwork <;> rfl

end Database

end Stockroom
