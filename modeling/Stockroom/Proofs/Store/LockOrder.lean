import Stockroom.Proofs.Stock.Lines
import Stockroom.Proofs.Store.Locking

/-!
# The order of locks

Whatever its requests are answered, a unit of work asks for locks in one order,
a reservation before all products and products in ascending order, and asks for
none once it has begun to write.
-/

namespace Stockroom

/-- A row that can be locked. -/
inductive LockedRow where
  | reservation (id : Uuid)
  | product (text : String)
deriving DecidableEq

/-- The order in which rows are locked. -/
def LockedRow.Before : LockedRow → LockedRow → Prop
  | reservation _, product _ => True
  | product first, product second => first < second
  | _, reservation _ => False

theorem LockedRow.Before.trans {first second third : LockedRow} (hfirst : first.Before second)
    (hsecond : second.Before third) : first.Before third := by
  cases first <;> cases second <;> cases third <;>
    first | exact hfirst.elim | exact hsecond.elim | trivial | exact String.lt_trans hfirst hsecond

theorem LockedRow.Before.irrefl (row : LockedRow) : ¬ row.Before row := by
  cases row with
  | reservation id => exact fun hbefore => hbefore
  | product text => exact String.lt_irrefl text

/-- The row whose lock a request waits for. -/
def RowRequest.wanted : RowRequest → Option LockedRow
  | lockProduct product => some (.product product.text)
  | lockReservation id => some (.reservation id)
  | writeRecord _ | removeProduct _ | addReservation _ | settleReservation _ => none

/-- The rows that a unit of work has asked to lock, and whether it has asked to write. -/
structure TwoPhase where
  asked : List LockedRow
  hasWritten : Bool

namespace TwoPhase

/-- Nothing has been asked for yet. -/
def start : TwoPhase := ⟨[], false⟩

def lock (stage : TwoPhase) (row : LockedRow) : TwoPhase :=
  { stage with asked := stage.asked ++ [row] }

def write (stage : TwoPhase) : TwoPhase :=
  { stage with hasWritten := true }

/-- Whether the lock of a row may be asked for: before all writes, and after the locks that come
before it. -/
def MayLock (stage : TwoPhase) (row : LockedRow) : Prop :=
  stage.hasWritten = false ∧ ∀ other ∈ stage.asked, other.Before row

/-- Locks come before writes and in their order, whatever the answers. -/
def protocol : Protocol RowRequest RowRequest.Answer TwoPhase where
  allows stage request := ∀ row, request.wanted = some row → stage.MayLock row
  expects _ _ _ := True
  next stage request _ :=
    match request.wanted with
    | some row => stage.lock row
    | none => stage.write

/-- What was asked for stays asked for, and so is what a request waits for. -/
theorem mem_asked_next {stage : TwoPhase} {request : RowRequest} {row : LockedRow}
    (hrow : row ∈ stage.asked ∨ request.wanted = some row) (answer : request.Answer) :
    row ∈ (protocol.next stage request answer).asked := by
  cases hwanted : request.wanted with
  | none =>
    simp only [protocol, hwanted]
    exact hrow.resolve_right (by simp [hwanted])
  | some wanted =>
    simp only [protocol, hwanted]
    refine List.mem_append.2 (hrow.imp_right fun hrow => ?_)
    rw [hwanted, Option.some.injEq] at hrow
    exact List.mem_singleton.2 hrow.symm

end TwoPhase

namespace UnitOfWork

open Program (Conforms)
open Program.Conforms

variable {stage : TwoPhase}

theorem lockProducts_ordered {copy : WorkingCopy} {products : List ProductId}
    (hlocking : stage.hasWritten = false)
    (hlater : ∀ row ∈ stage.asked, ∀ product ∈ products, row.Before (.product product.text))
    (hascending : products.Pairwise (· < ·)) :
    Conforms TwoPhase.protocol (fun _ last => last.hasWritten = false)
      (lockProducts copy products) stage := by
  induction products generalizing copy stage with
  | nil => exact .pure hlocking
  | cons product rest ih =>
    obtain ⟨hfirst, hrest⟩ := List.pairwise_cons.1 hascending
    refine request_bind (fun row hrow => ?_) (fun record _ => ?_) fun _ _ => hlocking
    · cases hrow
      exact ⟨hlocking, fun other hmem => hlater other hmem product List.mem_cons_self⟩
    · refine ih hlocking (fun row hmem later hlast => ?_) hrest
      rcases List.mem_append.1 hmem with hmem | hmem
      · exact hlater row hmem later (List.mem_cons_of_mem _ hlast)
      · rw [List.mem_singleton.1 hmem]
        exact hfirst later hlast

theorem writeRecords_ordered (records : List StockRecord) :
    Conforms TwoPhase.protocol (fun _ _ => True) (writeRecords records) stage := by
  induction records generalizing stage with
  | nil => exact .pure trivial
  | cons record rest ih => exact request_bind nofun (fun _ _ => ih) fun _ _ => trivial

/-- A unit of work keeps to the order of locks. -/
def Ordered {α : Type} (work : UnitOfWork α) : Prop :=
  Conforms TwoPhase.protocol (fun _ _ => True) work .start

theorem change_ordered (product : ProductId)
    (edit : StockRecord → Except Violation StockRecord) : Ordered (change product edit) := by
  refine request_bind (fun _ _ => ⟨rfl, nofun⟩) (fun record _ => ?_) fun _ _ => trivial
  refine attempt_bind (fun updated _ => ?_) fun _ _ => trivial
  exact request_bind nofun (fun _ _ => .pure trivial) fun _ _ => trivial

theorem delete_ordered (product : ProductId) : Ordered (delete product) := by
  refine request_bind (fun _ _ => ⟨rfl, nofun⟩) (fun record _ => ?_) fun _ _ => trivial
  dsimp only
  split
  · exact .throw trivial
  · exact ⟨nofun, fun _ _ => trivial⟩

theorem reserve_ordered (reservation : Reservation) : Ordered (reserve reservation) := by
  refine (lockProducts_ordered rfl (fun _ hmem => (List.not_mem_nil hmem).elim)
    (ProductId.pairwise_sortedDistinct _)).bind
    (fun locked _ _ => ?_) fun _ _ _ => trivial
  refine attempt_bind (fun held _ => ?_) fun _ _ => trivial
  refine (writeRecords_ordered _).bind (fun _ _ _ => ?_) fun _ _ _ => trivial
  exact request_bind nofun (fun _ _ => .pure trivial) fun _ _ => trivial

/-- Whoever finds the reservation resolved has not asked to write. -/
def WritesToApply (result : Except StockError Outcome) (last : TwoPhase) : Prop :=
  ∀ outcome, result = .ok outcome → outcome.transition = .alreadyResolved →
    last.hasWritten = false

/-- A resolution that finds its reservation resolved writes nothing. -/
theorem resolve_writesToApply (id : Uuid) (resolution : Resolution) (now : Instant) :
    Conforms TwoPhase.protocol WritesToApply (resolve id resolution now) .start := by
  have hfailed (error : StockError) (last : TwoPhase) : WritesToApply (.error error) last := by
    intro outcome houtcome
    cases houtcome
  refine request_bind (fun _ _ => ⟨rfl, nofun⟩) (fun reservation _ => ?_) fun _ _ => hfailed _ _
  dsimp only
  split
  · exact attempt_bind (fun _ _ => .pure fun _ _ _ => rfl) fun _ _ => hfailed _ _
  · refine (lockProducts_ordered rfl (fun row hmem _ _ => ?_)
      (ProductId.pairwise_sortedDistinct _)).bind (fun locked last hlocking => ?_)
      fun _ _ _ => hfailed _ _
    · rw [List.mem_singleton.1 hmem]
      trivial
    refine attempt_bind (fun settled _ => ?_) fun _ _ => hfailed _ _
    split
    · exact .pure fun _ _ _ => hlocking
    · refine attempt_bind (fun edited _ => ?_) fun _ _ => hfailed _ _
      refine (writeRecords_ordered _).bind (fun _ _ _ => ?_) fun _ _ _ => hfailed _ _
      refine request_bind nofun (fun _ _ => .pure ?_) fun _ _ => hfailed _ _
      intro outcome houtcome happlied
      cases houtcome
      cases happlied

theorem resolve_ordered (id : Uuid) (resolution : Resolution) (now : Instant) :
    Ordered (resolve id resolution now) :=
  ⟨(resolve_writesToApply id resolution now).run.mono fun _ _ _ => trivial⟩

end UnitOfWork

namespace StoreCall

/-- The unit of work of a call that changes rows which are there, or adds a reservation. -/
def work? : (call : StoreCall) → Option (UnitOfWork call.Value)
  | adjust product adjustment now => some (UnitOfWork.adjust product adjustment now)
  | setThreshold product threshold now => some (UnitOfWork.setThreshold product threshold now)
  | delete product => some (UnitOfWork.delete product)
  | reserve reservation => some (UnitOfWork.reserve reservation)
  | resolve id resolution now => some (UnitOfWork.resolve id resolution now)
  | _ => none

theorem ordered_of_work? {call : StoreCall} {work : UnitOfWork call.Value}
    (hwork : call.work? = some work) : work.Ordered := by
  cases call with
  | adjust _ _ _ | setThreshold _ _ _ =>
    cases hwork
    exact UnitOfWork.change_ordered _ _
  | delete product =>
    cases hwork
    exact UnitOfWork.delete_ordered product
  | reserve reservation =>
    cases hwork
    exact UnitOfWork.reserve_ordered reservation
  | resolve id resolution now =>
    cases hwork
    exact UnitOfWork.resolve_ordered id resolution now
  | _ => cases hwork

end StoreCall

end Stockroom
