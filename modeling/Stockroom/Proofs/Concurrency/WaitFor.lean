import Mathlib.Data.Fintype.Order
import Mathlib.Logic.Relation
import Stockroom.Proofs.Concurrency.RowAccess
import Stockroom.Proofs.Database.Alone

/-!
# No circular wait

Calls that run concurrently hold the locks they have taken while they wait for
their next one.  Every call of either store asks for locks in one order, so a
call that waits for another one wants a row before all rows that this one waits
for, and somebody can always go on.
-/

namespace Stockroom

open Program (Conforms)

/-- A store whose calls lock rows: which lock a request waits for, whether its answer means that
the lock was taken, and which requests let go of all locks. -/
structure LockingStore where
  Request : Type
  Answer : Request → Type
  program : (call : StoreCall) → Program Request Answer call.Answer
  wanted : Request → Option LockedRow
  taken : (request : Request) → Answer request → Bool
  releases : Request → Bool

namespace LockingStore

/-- The store in memory, whose calls go from row to row. -/
def memory : LockingStore where
  Request := RowAccess
  Answer := RowAccess.Answer
  program := MemoryStore.accesses
  wanted
    | .row request => request.wanted
    | _ => none
  taken
    | .row _, answer => answer.isOk
    | _, _ => false
  releases
    | .release => true
    | _ => false

/-- The store in a database, whose transactions keep their locks until they end. -/
def database (lockTimeout : Nat) : LockingStore where
  Request := DatabaseRequest
  Answer := DatabaseRequest.Answer
  program call := (Database.call lockTimeout call).run
  wanted
    | .send statement => statement.wanted
    | _ => none
  taken
    | .send (.lockInventory _), .ok (some _) | .send (.lockReservation _), .ok (some _) => true
    | _, _ => false
  releases
    | .send .commit | .send .rollback => true
    | _ => false

variable (store : LockingStore)

/-- The locks that are held after a request has been answered. -/
def heldAfter (held : List LockedRow) (request : store.Request) (answer : store.Answer request) :
    List LockedRow :=
  if store.releases request then []
  else if store.taken request answer then held ++ (store.wanted request).toList
  else held

variable {store}

theorem mem_heldAfter {held : List LockedRow} {request : store.Request}
    {answer : store.Answer request} {row : LockedRow}
    (hmem : row ∈ store.heldAfter held request answer) :
    row ∈ held ∨ store.wanted request = some row := by
  rw [heldAfter] at hmem
  split at hmem
  · exact (List.not_mem_nil hmem).elim
  · split at hmem
    · exact (List.mem_append.1 hmem).imp_right Option.mem_toList.1
    · exact .inl hmem

variable (store)

/-- A lock is only asked for after all locks that are held. -/
def ordered : Protocol store.Request store.Answer (List LockedRow) where
  allows held request := ∀ row, store.wanted request = some row → ∀ other ∈ held, other.Before row
  expects _ _ _ := True
  next := store.heldAfter

/-- A call keeps to the order of locks, and holds none in the end. -/
def Ordered (call : StoreCall) : Prop :=
  (store.program call).Follows store.ordered (fun _ held => held = []) []

/-! ## The store in memory -/

/-- The locks that are held are among those that a unit of work has asked for. -/
def Among (stage : TwoPhase) (held : List LockedRow) : Prop :=
  ∀ row ∈ held, row ∈ stage.asked

theorem unit_ordered {α : Type} {work : UnitOfWork α} (hwork : work.Ordered) :
    (AccessProgram.unit work).Follows memory.ordered (fun _ held => held = []) [] := by
  have hrow (stage : TwoPhase) (held : List LockedRow) (request : RowRequest)
      (hamong : Among stage held) (hallowed : TwoPhase.protocol.allows stage request) :
      (AccessProgram.access (.row request)).Follows memory.ordered (fun answered last =>
        True ∧ Among (TwoPhase.protocol.next stage request answered) last) held := by
    refine ⟨fun row hwanted other hmem => (hallowed row hwanted).2 other (hamong other hmem),
      fun answer _ => ⟨trivial, fun row hmem => ?_⟩⟩
    have hheld : row ∈ held ∨ memory.wanted (.row request) = some row := mem_heldAfter hmem
    exact TwoPhase.mem_asked_next (hheld.imp_left (hamong row)) answer
  refine (Program.follows_bind _ _ _).2 ?_
  refine (hwork.run.interpret _ Among hrow (fun _ hmem => hmem)).mono fun outcome held _ => ?_
  exact ⟨nofun, fun _ _ => rfl⟩

theorem peekRecord_ordered (product : ProductId) :
    (AccessProgram.peekRecord product).Follows memory.ordered (fun _ held => held = []) [] :=
  ⟨fun _ _ _ hmem => (List.not_mem_nil hmem).elim, fun _ _ => ⟨nofun, fun _ _ => rfl⟩⟩

theorem peekReservation_ordered (id : Uuid) :
    (AccessProgram.peekReservation id).Follows memory.ordered (fun _ held => held = []) [] :=
  ⟨fun _ _ _ hmem => (List.not_mem_nil hmem).elim, fun _ _ => ⟨nofun, fun _ _ => rfl⟩⟩

theorem collect_ordered {κ ν : Type} {peek : κ → AccessProgram (Option ν)}
    (hpeek : ∀ key, (peek key).Follows memory.ordered (fun _ held => held = []) [])
    (keys : List κ) :
    (AccessProgram.collect peek keys).Follows memory.ordered (fun _ held => held = []) [] := by
  induction keys with
  | nil => rfl
  | cons key rest ih =>
    refine (Program.follows_bind _ _ _).2 ((hpeek key).mono ?_)
    rintro found _ rfl
    refine (Program.follows_bind _ _ _).2 (ih.mono ?_)
    rintro others _ rfl
    rfl

theorem memory_ordered (call : StoreCall) : memory.Ordered call := by
  cases call with
  | find product => exact (Program.follows_bind _ _ _).2 (peekRecord_ordered product)
  | findMany products =>
    exact (Program.follows_bind _ _ _).2 (collect_ordered peekRecord_ordered products)
  | lowStock threshold request =>
    refine ⟨nofun, fun products _ => ?_⟩
    let collected := AccessProgram.collect AccessProgram.peekRecord products
    exact (Program.follows_bind collected _ _).2 (collect_ordered peekRecord_ordered products)
  | findReservation id => exact (Program.follows_bind _ _ _).2 (peekReservation_ordered id)
  | overdue asOf limit =>
    refine ⟨nofun, fun ids _ => ?_⟩
    let collected := AccessProgram.collect AccessProgram.peekReservation ids
    exact (Program.follows_bind collected _ _).2 (collect_ordered peekReservation_ordered ids)
  | adjust _ _ _ | setThreshold _ _ _ => exact unit_ordered (UnitOfWork.change_ordered _ _)
  | delete product => exact unit_ordered (UnitOfWork.delete_ordered product)
  | reserve reservation => exact unit_ordered (UnitOfWork.reserve_ordered reservation)
  | resolve id resolution now =>
    exact unit_ordered (UnitOfWork.resolve_ordered id resolution now)
  | create _ | findProcessed _ | recordProcessed _ => exact ⟨nofun, fun _ _ => rfl⟩

/-! ## The store in a database -/

section Database

open Database

variable {lockTimeout : Nat} {α : Type}

/-- A call to a database that holds no lock in the end if it holds none at first. -/
def Returns (lockTimeout : Nat) (call : DatabaseCall α) : Prop :=
  Conforms (database lockTimeout).ordered (fun _ held => held = []) call []

theorem allows_of_free {statement : Statement} (hfree : statement.wanted = none)
    (held : List LockedRow) : (database lockTimeout).ordered.allows held (.send statement) := by
  intro row hwanted
  cases hfree.symm.trans hwanted

theorem body_ordered {work : UnitOfWork α} (hwork : work.Ordered) :
    Conforms (database lockTimeout).ordered (fun _ _ => True) (body lockTimeout work) [] := by
  have hstep (stage : TwoPhase) (held : List LockedRow) (request : DatabaseRequest)
      (hamong : Among stage held) (hallowed : inside.allows stage request) :
      (database lockTimeout).ordered.allows held request ∧
        ∀ answer, (database lockTimeout).ordered.expects held request answer →
          inside.expects stage request answer ∧
            Among (inside.next stage request answer)
              ((database lockTimeout).ordered.next held request answer) := by
    cases request with
    | connect | present => exact hallowed.elim
    | send statement =>
      refine ⟨fun row hwanted other hmem => (hallowed.2 row hwanted).2 other (hamong other hmem),
        fun answer _ => ⟨trivial, fun row hmem => ?_⟩⟩
      have hheld : row ∈ held ∨ (database lockTimeout).wanted (.send statement) = some row :=
        mem_heldAfter hmem
      exact Database.mem_asked_next (hheld.imp_left (hamong row)) answer
  have hbody : Conforms inside (fun _ _ => True) (body lockTimeout work) .start :=
    body_inside hwork fun _ => trivial
  exact ⟨(hbody.run.along Among hstep fun _ hmem => hmem).mono fun _ _ _ => trivial⟩

theorem transact_ordered {work : UnitOfWork α} (hwork : work.Ordered) :
    Returns lockTimeout (transact lockTimeout work) := by
  refine connect_bind nofun ?_ fun _ => rfl
  refine send_bind nofun (fun _ => ?_) fun _ => rfl
  refine ⟨(Program.follows_bind _ _ _).2 ((Program.follows_bind _ _ _).2
    ((body_ordered hwork).run.mono fun outcome held _ => ?_))⟩
  cases outcome with
  | ok value => exact (send_bind (allows_of_free rfl held) (fun _ => .pure rfl) fun _ => rfl).run
  | error error =>
    exact (send_bind (allows_of_free rfl held) (fun _ => .throw rfl) fun _ => rfl).run

theorem alone_ordered {call : DatabaseCall α} (halone : Conforms alone (fun _ _ => True) call ()) :
    Returns lockTimeout call := by
  have hstep (_ : Unit) (held : List LockedRow) (request : DatabaseRequest) (hfree : held = [])
      (hallowed : alone.allows () request) :
      (database lockTimeout).ordered.allows held request ∧
        ∀ answer, (database lockTimeout).ordered.expects held request answer →
          True ∧ (database lockTimeout).ordered.next held request answer = [] := by
    have hwanted : (database lockTimeout).wanted request = none := by
      cases request with
      | connect | present => rfl
      | send statement => exact Statement.StandsAlone.wanted hallowed
    refine ⟨fun row hrow => (nomatch hwanted.symm.trans hrow), fun answer _ => ⟨trivial, ?_⟩⟩
    change heldAfter (database lockTimeout) held request answer = []
    simp [heldAfter, hwanted, hfree]
  have hstart : ([] : List LockedRow) = [] := rfl
  have hordered := halone.run.along (fun _ held => held = []) hstep hstart
  exact ⟨hordered.mono fun _ _ ⟨_, _, hheld⟩ => hheld⟩

theorem database_ordered (lockTimeout : Nat) (call : StoreCall) :
    (database lockTimeout).Ordered call := by
  cases hwork : call.work? with
  | none => exact (alone_ordered (call_alone lockTimeout hwork)).run
  | some work =>
    have hcall : Returns lockTimeout (transact lockTimeout work) :=
      transact_ordered (StoreCall.ordered_of_work? hwork)
    rw [← call_of_work? lockTimeout hwork] at hcall
    exact hcall.run

end Database

/-! ## Concurrent calls -/

/-- Where a call has got to: the locks that it holds, and what remains of it. -/
structure Position (store : LockingStore) (call : StoreCall) where
  held : List LockedRow
  rest : Program store.Request store.Answer call.Answer

variable {store}

namespace Position

variable {call : StoreCall}

/-- The positions that a call can come to, whatever its requests are answered. -/
inductive Reached : Position store call → Prop
  | start : Reached ⟨[], store.program call⟩
  | answered {held : List LockedRow} {request : store.Request}
    {resume : store.Answer request → Program store.Request store.Answer call.Answer}
    (hreached : Reached ⟨held, .ask request resume⟩) (answer : store.Answer request) :
    Reached ⟨store.heldAfter held request answer, resume answer⟩

/-- The position after one more request. -/
def next (position : Position store call)
    (answers : (request : store.Request) → store.Answer request) : Position store call :=
  match position.rest with
  | .done _ => position
  | .ask request resume =>
    ⟨store.heldAfter position.held request (answers request), resume (answers request)⟩

theorem Reached.next {position : Position store call} (hreached : position.Reached)
    (answers : (request : store.Request) → store.Answer request) :
    (position.next answers).Reached := by
  rcases position with ⟨held, answer | ⟨request, resume⟩⟩
  · exact hreached
  · exact hreached.answered (answers request)

/-- The lock that a call waits for next, if it waits for one. -/
def wanted? (position : Position store call) : Option LockedRow :=
  match position.rest with
  | .done _ => none
  | .ask request _ => store.wanted request

def IsDone (position : Position store call) : Prop :=
  ∃ answer, position.rest = .done answer

/-- The locks of a position are in order, and so is what remains. -/
structure InOrder (position : Position store call) : Prop where
  held : position.held.Pairwise LockedRow.Before
  rest : position.rest.Follows store.ordered (fun _ held => held = []) position.held

theorem InOrder.of_reached (hordered : store.Ordered call) {position : Position store call}
    (hreached : position.Reached) : position.InOrder := by
  induction hreached with
  | start => exact ⟨.nil, hordered⟩
  | @answered held request resume _ answer ih =>
    refine ⟨?_, ih.rest.2 answer trivial⟩
    rw [heldAfter]
    split
    · exact .nil
    · split
      · cases hwanted : store.wanted request with
        | none => simpa using ih.held
        | some row =>
          refine List.pairwise_append.2 ⟨ih.held, List.pairwise_singleton _ _, ?_⟩
          intro other hother later hlater
          rw [List.mem_singleton.1 hlater]
          exact ih.rest.1 row hwanted other hother
      · exact ih.held

/-- A call waits for a lock that comes after all that it holds. -/
theorem InOrder.before_wanted {position : Position store call} (hinOrder : position.InOrder)
    {row other : LockedRow} (hwanted : position.wanted? = some row)
    (hother : other ∈ position.held) : other.Before row := by
  rcases position with ⟨held, _ | ⟨request, resume⟩⟩
  · cases hwanted
  · exact hinOrder.rest.1 row hwanted other hother

/-- Who holds a lock has not returned. -/
theorem InOrder.not_isDone {position : Position store call} (hinOrder : position.InOrder)
    {row : LockedRow} (hheld : row ∈ position.held) : ¬ position.IsDone := by
  rintro ⟨answer, hdone⟩
  have hrest := hinOrder.rest
  rw [hdone] at hrest
  rw [show position.held = [] from hrest] at hheld
  exact List.not_mem_nil hheld

end Position

section Tasks

variable {Task : Type} {calls : Task → StoreCall}

/-- A task waits for another one that holds the lock it wants. -/
def WaitsFor (positions : (task : Task) → Position store (calls task)) (task other : Task) : Prop :=
  ∃ row, (positions task).wanted? = some row ∧ row ∈ (positions other).held

variable {positions : (task : Task) → Position store (calls task)}

/-- Along a chain of tasks that wait for each other, the locks ascend. -/
theorem exists_held_of_chain (hinOrder : ∀ task, (positions task).InOrder) {task other : Task}
    (hchain : Relation.TransGen (WaitsFor positions) task other) :
    ∃ wanted row, (positions task).wanted? = some wanted ∧ row ∈ (positions other).held ∧
      (wanted = row ∨ wanted.Before row) := by
  induction hchain with
  | single hwaits =>
    obtain ⟨row, hwanted, hheld⟩ := hwaits
    exact ⟨row, row, hwanted, hheld, .inl rfl⟩
  | @tail middle last _ hwaits ih =>
    obtain ⟨wanted, row, hwanted, hheld, hbefore⟩ := ih
    obtain ⟨next, hnext, hlast⟩ := hwaits
    have hlater : row.Before next := (hinOrder middle).before_wanted hnext hheld
    refine ⟨wanted, next, hwanted, hlast, .inr ?_⟩
    rcases hbefore with rfl | hbefore
    · exact hlater
    · exact hbefore.trans hlater

theorem acyclic_of_inOrder (hinOrder : ∀ task, (positions task).InOrder) (task : Task) :
    ¬ Relation.TransGen (WaitsFor positions) task task := by
  intro hcycle
  obtain ⟨wanted, row, hwanted, hheld, hbefore⟩ := exists_held_of_chain hinOrder hcycle
  have hlater : row.Before wanted := (hinOrder task).before_wanted hwanted hheld
  rcases hbefore with rfl | hbefore
  · exact LockedRow.Before.irrefl _ hlater
  · exact LockedRow.Before.irrefl _ (hbefore.trans hlater)

/-- Of finitely many tasks that are not all done, one that is not done waits for nobody. -/
theorem exists_free_of_inOrder [Finite Task] (hinOrder : ∀ task, (positions task).InOrder)
    (hunfinished : ∃ task, ¬ (positions task).IsDone) :
    ∃ task, ¬ (positions task).IsDone ∧ ∀ other, ¬ WaitsFor positions task other := by
  let follows (later earlier : Task) : Prop :=
    Relation.TransGen (WaitsFor positions) earlier later
  have htrans : IsTrans Task follows := ⟨fun _ _ _ hfirst hsecond => hsecond.trans hfirst⟩
  have hirrefl : Std.Irrefl follows := ⟨acyclic_of_inOrder hinOrder⟩
  have hwellFounded : WellFounded follows := Finite.wellFounded_of_trans_of_irrefl follows
  obtain ⟨task, hopen, hlast⟩ :=
    hwellFounded.has_min {task | ¬ (positions task).IsDone} hunfinished
  refine ⟨task, hopen, fun other hwaits => ?_⟩
  obtain ⟨row, _, hheld⟩ := hwaits
  exact hlast other ((hinOrder other).not_isDone hheld) (.single ⟨row, ‹_›, hheld⟩)

end Tasks

/-- What the order of locks means: the locks of a call strictly ascend, calls that run concurrently
never wait for each other in a circle, and one of them can always go on. -/
structure NeverStuck (store : LockingStore) : Prop where
  ascending : ∀ (call : StoreCall) (position : Position store call), position.Reached →
    position.held.Pairwise LockedRow.Before ∧
      ∀ row, position.wanted? = some row → ∀ other ∈ position.held, other.Before row
  acyclic : ∀ {Task : Type} {calls : Task → StoreCall}
    (positions : (task : Task) → Position store (calls task)),
    (∀ task, (positions task).Reached) →
      ∀ task, ¬ Relation.TransGen (WaitsFor positions) task task
  progress : ∀ {Task : Type} [Finite Task] {calls : Task → StoreCall}
    (positions : (task : Task) → Position store (calls task)),
    (∀ task, (positions task).Reached) → (∃ task, ¬ (positions task).IsDone) →
      ∃ task, ¬ (positions task).IsDone ∧ ∀ other, ¬ WaitsFor positions task other

theorem neverStuck_of_ordered (hordered : ∀ call, store.Ordered call) : store.NeverStuck where
  ascending call position hreached := by
    have hinOrder := Position.InOrder.of_reached (hordered call) hreached
    exact ⟨hinOrder.held, fun row hwanted other hother => hinOrder.before_wanted hwanted hother⟩
  acyclic positions hreached :=
    acyclic_of_inOrder fun task => .of_reached (hordered _) (hreached task)
  progress positions hreached :=
    exists_free_of_inOrder fun task => .of_reached (hordered _) (hreached task)

/-- Neither store can come to a circular wait, whatever its rows and the arguments of the calls
are. -/
theorem no_circular_wait :
    memory.NeverStuck ∧ ∀ lockTimeout, (database lockTimeout).NeverStuck :=
  ⟨neverStuck_of_ordered memory_ordered,
    fun lockTimeout => neverStuck_of_ordered (database_ordered lockTimeout)⟩

/-- An order of plates and cups has locked the cups, and an order of cups waits for them: the first
can go on. -/
theorem no_circular_wait_of_two_orders :
    let cup : ProductId := ⟨"cup", by decide⟩
    let plate : ProductId := ⟨"plate", by decide⟩
    let order (lines : List ReservationLine) : StoreCall :=
      .reserve ⟨Uuid.ofNat 3, "order", lines, .pending, .epoch, .epoch, .epoch⟩
    let calls (task : Bool) : StoreCall :=
      if task then order [⟨cup, .one⟩] else order [⟨plate, .one⟩, ⟨cup, .one⟩]
    let stocked : MemoryStore :=
      (MemoryStore.answer (.create (.create (Uuid.ofNat 1) cup .one .zero .epoch)) .empty).2
    let answers (request : RowAccess) : request.Answer :=
      (MemoryStore.answerAccess request stocked).1
    let start (task : Bool) : Position memory (calls task) := ⟨[], memory.program (calls task)⟩
    let positions (task : Bool) : Position memory (calls task) :=
      if task then start task else (start task).next answers
    (∀ task, (positions task).Reached) ∧ WaitsFor positions true false ∧
      (∀ task, ¬ Relation.TransGen (WaitsFor positions) task task) ∧
      ∃ task, ¬ (positions task).IsDone ∧ ∀ other, ¬ WaitsFor positions task other := by
  intro cup plate order calls stocked answers start positions
  have hstart (task : Bool) : (start task).Reached := .start
  have hreached (task : Bool) : (positions task).Reached := by
    cases task with
    | false => exact (hstart false).next answers
    | true => exact hstart true
  have hheld : .product "cup" ∈ (positions false).held := by decide +kernel
  have hwanted : (positions true).wanted? = some (.product "cup") := by decide +kernel
  have hopen : ¬ (positions false).IsDone :=
    (Position.InOrder.of_reached (memory_ordered _) (hreached false)).not_isDone hheld
  obtain ⟨_, hacyclic, hprogress⟩ := no_circular_wait.1
  exact ⟨hreached, ⟨_, hwanted, hheld⟩, hacyclic positions hreached,
    hprogress positions hreached ⟨false, hopen⟩⟩

end LockingStore

end Stockroom
