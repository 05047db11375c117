import Stockroom.Proofs.Database.Serving
import Stockroom.Proofs.Database.TwoPhase

/-!
# Transactions under interference

A call that is one transaction, on a database that may refuse any of its
statements for any reason, and may lose the connection before or after any of
them.  What is handed to the connection is kept in a log.
-/

namespace Stockroom.Database

open Program (Conforms goOn goOn_ok goOn_error)

/-- How a statement with a result has ended. -/
def Ending.of {α : Type} : Except Failure α → Ending
  | .ok _ => .done
  | .error (.refused refusal) => .refused refusal
  | .error .lost => .lost

/-- A database, with all statements that a call has handed to the connection. -/
structure Session where
  database : Database
  log : List Sent

namespace Session

/-- Answers one request, interfering with a statement by its place in the log. -/
def answer (interference : Nat → Interference) (now : Instant) :
    (request : DatabaseRequest) → Session → request.Answer × Session
  | .connect, session => (session.database.establish.1, ⟨session.database.establish.2, session.log⟩)
  | .present, session => (now, session)
  | .send statement, session =>
    let (result, database) := session.database.run (interference session.log.length) statement
    (result, ⟨database, session.log ++ [⟨statement, .of result⟩]⟩)

/-- Runs a call. -/
def perform {α : Type} (interference : Nat → Interference) (now : Instant) (call : DatabaseCall α)
    (session : Session) : Except StockError α × Session :=
  Program.run (answer interference now) call.run session

variable {α β : Type} {interference : Nat → Interference} {now : Instant}

theorem perform_bind (call : DatabaseCall α) (next : α → DatabaseCall β) (session : Session) :
    perform interference now (call >>= next) session =
      goOn (perform interference now call session) fun value after =>
        perform interference now (next value) after :=
  Program.run_exceptT_bind (answer interference now) call next session

theorem perform_lift (program : DatabaseProgram α) (session : Session) :
    perform interference now (ExceptT.lift program) session =
      (.ok (program.run (answer interference now) session).1,
        (program.run (answer interference now) session).2) := by
  let finish : α → DatabaseProgram (Except StockError α) := fun value => .done (.ok value)
  exact Program.run_bind (answer interference now) program finish session

theorem perform_send (statement : Statement) (session : Session) :
    perform interference now (send statement) session =
      ((answer interference now (.send statement) session).1.mapError Failure.toStockError,
        (answer interference now (.send statement) session).2) := rfl

end Session

/-! ## What a transaction may be left with -/

/-- A transaction that began on some tables is open, or it is lost and they are back. -/
def Holds (begun : Tables) (database : Database) : Prop :=
  database.connected = true ∧ database.begun = some begun ∨
    database.connected = false ∧ database.tables = begun

theorem tables_lose {begun : Tables} {database : Database} (hbegun : database.begun = some begun) :
    database.lose.tables = begun := by
  rw [lose, restored, hbegun]
  rfl

theorem carryOut_inside {statement : Statement} (hinside : statement.isBoundary = false)
    (database : Database) : database.carryOut statement = database.carryOutOn statement := by
  cases statement <;> first | rfl | cases hinside

theorem carryOut_begun {database after : Database} {statement : Statement}
    {result : statement.Result} (hinside : statement.isBoundary = false)
    (hdone : database.carryOut statement = .ok (result, after)) :
    after.begun = database.begun ∧ after.connected = database.connected := by
  rw [carryOut_inside hinside] at hdone
  rw [eq_of_carryOutOn hdone]
  exact ⟨rfl, rfl⟩

theorem holds_refuse {begun : Tables} {database : Database} {statement : Statement}
    (hinside : statement.isBoundary = false) (hconnected : database.connected = true)
    (hbegun : database.begun = some begun) (refusal : Refusal) :
    (database.refuse statement refusal).Holds begun := by
  refine .inl ?_
  cases statement <;> first | exact ⟨hconnected, hbegun⟩ | cases hinside

theorem run_connected {database : Database} (hconnected : database.connected = true)
    (interference : Interference) (statement : Statement) :
    database.run interference statement =
      match interference with
      | .refusal refusal => (.error (.refused refusal), database.refuse statement refusal)
      | .lossBefore => (.error .lost, database.lose.record statement .lost)
      | .lossAfter =>
        match database.carryOut statement with
        | .ok (_, after) => (.error .lost, after.lose.record statement .lost)
        | .error _ => (.error .lost, database.lose.record statement .lost)
      | .none =>
        match database.carryOut statement with
        | .ok (result, after) => (.ok result, after.record statement .done)
        | .error refusal => (.error (.refused refusal), database.refuse statement refusal) := by
  simp only [Database.run, hconnected]
  rfl

/-- On a connection that is gone nothing happens any more. -/
theorem run_lost {database : Database} (hlost : database.connected = false)
    (interference : Interference) (statement : Statement) :
    database.run interference statement = (.error .lost, database) := by
  simp only [Database.run, hlost]
  rfl

/-- Whatever happens to a statement inside a transaction, the transaction can be taken back. -/
theorem Holds.run {begun : Tables} {database : Database} (hholds : database.Holds begun)
    {statement : Statement} (hinside : statement.isBoundary = false)
    (interference : Interference) : (database.run interference statement).2.Holds begun := by
  rcases hholds with ⟨hconnected, hbegun⟩ | ⟨hlost, htables⟩
  · rw [run_connected hconnected]
    cases interference with
    | refusal refusal => exact holds_refuse hinside hconnected hbegun refusal
    | lossBefore => exact .inr ⟨rfl, tables_lose hbegun⟩
    | lossAfter =>
      cases hdone : database.carryOut statement with
      | ok done => exact .inr ⟨rfl, tables_lose ((carryOut_begun hinside hdone).1.trans hbegun)⟩
      | error refusal => exact .inr ⟨rfl, tables_lose hbegun⟩
    | none =>
      cases hdone : database.carryOut statement with
      | ok done =>
        obtain ⟨hkept, hstays⟩ := carryOut_begun hinside hdone
        exact .inl ⟨hstays.trans hconnected, hkept.trans hbegun⟩
      | error refusal => exact holds_refuse hinside hconnected hbegun refusal
  · rw [run_lost hlost]
    exact .inr ⟨hlost, htables⟩

/-- Whatever happens to a rollback, the tables are back after it. -/
theorem Holds.tables_rollback {begun : Tables} {database : Database}
    (hholds : database.Holds begun) (interference : Interference) :
    (database.run interference .rollback).2.tables = begun := by
  rcases hholds with ⟨hconnected, hbegun⟩ | ⟨hlost, htables⟩
  · have hrestored : database.restored.tables = begun := by
      rw [restored, hbegun]
      rfl
    rw [run_connected hconnected]
    cases interference <;> exact hrestored
  · rw [run_lost hlost]
    exact htables

/-- A transaction that begins holds the tables, and one that cannot begin leaves them. -/
theorem run_begin {database : Database} (hidle : database.begun = none)
    (interference : Interference) :
    (∀ failure, (database.run interference .begin).1 = .error failure →
        (database.run interference .begin).2.tables = database.tables) ∧
      ((database.run interference .begin).1 = .ok () →
        (database.run interference .begin).2.Holds database.tables) := by
  have hlose : database.lose.tables = database.tables := by
    rw [lose, restored, hidle]
    rfl
  cases hconnected : database.connected with
  | false =>
    rw [run_lost hconnected]
    exact ⟨fun _ _ => rfl, nofun⟩
  | true =>
    rw [run_connected hconnected]
    cases interference with
    | refusal refusal => exact ⟨fun _ _ => rfl, nofun⟩
    | lossBefore => exact ⟨fun _ _ => hlose, nofun⟩
    | lossAfter => exact ⟨fun _ _ => rfl, nofun⟩
    | none => exact ⟨nofun, fun _ => .inl ⟨hconnected, rfl⟩⟩

/-! ## Inside a transaction -/

/-- A lock is not asked for after a write. -/
def LocksFirst (earlier later : Sent) : Prop :=
  earlier.statement.isWrite = true → later.statement.isLock = false

/-- What a transaction that began on some tables has sent since, and what that means for the
database. -/
structure Underway (begun : Tables) (opening inner : List Sent) (stage : TwoPhase)
    (session : Session) : Prop where
  holds : session.database.Holds begun
  log : session.log = opening ++ inner
  plain : ∀ sent ∈ inner, sent.statement.isBoundary = false
  unwritten : stage.hasWritten = false → ∀ sent ∈ inner, sent.statement.isWrite = false
  ordered : inner.Pairwise LocksFirst

theorem unwritten_of_next {stage : TwoPhase} {statement : Statement}
    {answer : Except Failure statement.Result}
    (hnext : (inside.next stage (.send statement) answer).hasWritten = false) :
    stage.hasWritten = false ∧ statement.isWrite = false := by
  cases statement <;> first | exact ⟨hnext, rfl⟩ | cases hnext

variable {begun : Tables} {opening inner : List Sent} {stage : TwoPhase} {session : Session}
  {interference : Nat → Interference} {now : Instant}

theorem Underway.answer (hunderway : Underway begun opening inner stage session)
    {request : DatabaseRequest} (hallowed : inside.allows stage request) :
    ∃ inner, Underway begun opening inner
      (inside.next stage request (session.answer interference now request).1)
      (session.answer interference now request).2 := by
  cases request with
  | connect | present => exact hallowed.elim
  | send statement =>
    obtain ⟨hplain, hlocks⟩ := hallowed
    let result := session.database.run (interference session.log.length) statement
    refine ⟨inner ++ [⟨statement, .of result.1⟩], hunderway.holds.run hplain _, ?_, ?_, ?_, ?_⟩
    · rw [← List.append_assoc, ← hunderway.log]
      rfl
    · exact List.forall_mem_append.2 ⟨hunderway.plain, List.forall_mem_singleton.2 hplain⟩
    · intro hnext
      obtain ⟨hunwritten, hread⟩ := unwritten_of_next hnext
      exact List.forall_mem_append.2
        ⟨hunderway.unwritten hunwritten, List.forall_mem_singleton.2 hread⟩
    · refine List.pairwise_append.2 ⟨hunderway.ordered, List.pairwise_singleton _ _, ?_⟩
      intro earlier hearlier later hlater hwrite
      rw [List.mem_singleton.1 hlater]
      cases hwanted : statement.wanted with
      | none => rw [statement.isLock_eq, hwanted]; rfl
      | some row =>
        have hread := hunderway.unwritten (hlocks row hwanted).1 earlier hearlier
        rw [hread] at hwrite
        cases hwrite

/-- The body of a transaction is under way until it ends. -/
theorem Underway.body {α : Type} {work : UnitOfWork α}
    {post : Except StockError α → TwoPhase → Prop}
    (hwork : Conforms TwoPhase.protocol post work .start)
    (hfailed : ∀ error, post (.error error) .start)
    (hunderway : Underway begun opening [] .start session) (interference : Nat → Interference)
    (now : Instant) (lockTimeout : Nat) :
    ∃ last inner, post (session.perform interference now (body lockTimeout work)).1 last ∧
      Underway begun opening inner last
        (session.perform interference now (body lockTimeout work)).2 := by
  have hstep (stage : TwoPhase) (session : Session) (request : DatabaseRequest)
      (hrelated : ∃ inner, Underway begun opening inner stage session)
      (hallowed : inside.allows stage request) :
      True ∧ ∃ inner, Underway begun opening inner
        (inside.next stage request (session.answer interference now request).1)
        (session.answer interference now request).2 := by
    obtain ⟨inner, hinner⟩ := hrelated
    exact ⟨trivial, hinner.answer hallowed⟩
  obtain ⟨last, hpost, inner, hlast⟩ :=
    (body_inside hwork hfailed).run.run hstep ⟨[], hunderway⟩
  exact ⟨last, inner, hpost, hlast⟩

/-! ## Whole transactions -/

variable {α : Type}

/-- How a transaction is entered. -/
def enter : DatabaseCall Unit := do
  connect
  send .begin

/-- The statement that ends a transaction. -/
def closing : Except StockError α → Statement
  | .ok _ => .commit
  | .error _ => .rollback

namespace Session

/-- A transaction is entered, and after its body comes the end that the body calls for. -/
theorem perform_transact (lockTimeout : Nat) (work : UnitOfWork α) (session : Session) :
    session.perform interference now (transact lockTimeout work) =
      goOn (session.perform interference now enter) fun _ entered =>
        let body := entered.perform interference now (body lockTimeout work)
        goOn (body.2.perform interference now (send (closing body.1))) fun _ last =>
          (body.1, last) := by
  rw [transact, enter, perform_bind, perform_bind]
  rcases session.perform interference now connect with ⟨error | ⟨⟩, connected⟩
  · rfl
  · rw [goOn_ok, goOn_ok, perform_bind]
    rcases connected.perform interference now (send .begin) with ⟨error | ⟨⟩, entered⟩
    · rfl
    · rw [goOn_ok, goOn_ok, perform_bind, perform_lift, goOn_ok]
      change perform interference now (match
          (entered.perform interference now (body lockTimeout work)).1 with
        | .ok value => do send .commit; return value
        | .error error => do send .rollback; throw error)
        (entered.perform interference now (body lockTimeout work)).2 = _
      rcases entered.perform interference now (body lockTimeout work) with ⟨_ | _, after⟩ <;>
        exact perform_bind _ _ _

end Session

/-- To connect leaves the tables and the transaction as they are. -/
theorem establish_keeps (database : Database) :
    database.establish.2.begun = database.begun ∧
      database.establish.2.tables = database.tables := by
  rw [establish]
  split
  · exact ⟨rfl, rfl⟩
  · split <;> exact ⟨rfl, rfl⟩

/-- A connection that is outside of a transaction enters one on the tables as they are, or fails
and has sent nothing but the beginning of one. -/
theorem perform_enter {database : Database} (hidle : database.begun = none)
    (interference : Nat → Interference) (now : Instant) :
    let entered := Session.perform interference now enter ⟨database, []⟩
    (entered.1 = .ok () ∧
        Underway database.tables [⟨.begin, .done⟩] [] .start entered.2) ∨
      (∃ error, entered.1 = .error error) ∧ entered.2.database.tables = database.tables ∧
        (entered.2.log = [] ∨ ∃ ending, entered.2.log = [⟨.begin, ending⟩]) := by
  obtain ⟨hbegun, htables⟩ := establish_keeps database
  have hconnect : Session.perform interference now connect ⟨database, []⟩ =
      (database.establish.1, ⟨database.establish.2, []⟩) := rfl
  rw [enter, Session.perform_bind, hconnect]
  rcases hestablished : database.establish with ⟨error | ⟨⟩, connected⟩
  · rw [hestablished] at htables
    exact .inr ⟨⟨error, rfl⟩, htables, .inl rfl⟩
  · rw [hestablished] at hbegun htables
    rw [goOn_ok, Session.perform_send]
    obtain ⟨hrefused, hbegins⟩ := run_begin (hbegun.trans hidle) (interference 0)
    have hlog (result : Except Failure Unit)
        (hresult : (connected.run (interference 0) .begin).1 = result) :
        (Session.answer interference now (.send .begin) ⟨connected, []⟩).2.log =
          [⟨.begin, .of result⟩] := by
      rw [← hresult]
      rfl
    cases hresult : (connected.run (interference 0) .begin).1 with
    | ok =>
      refine .inl ⟨congrArg (Except.mapError _) hresult, htables ▸ hbegins hresult, ?_, ?_, ?_, ?_⟩
      · exact hlog _ hresult
      · exact fun _ hmem => (List.not_mem_nil hmem).elim
      · exact fun _ _ hmem => (List.not_mem_nil hmem).elim
      · exact .nil
    | error failure =>
      refine .inr ⟨⟨_, congrArg (Except.mapError _) hresult⟩, ?_, .inr ⟨_, hlog _ hresult⟩⟩
      exact (hrefused failure hresult).trans htables

/-- What a call sends in a transaction, and what it leaves of it if it fails. -/
structure Atomic (lockTimeout : Nat) (interference : Nat → Interference) (now : Instant)
    (database : Database) (work : UnitOfWork α) (ended : Except StockError α × Session) : Prop where
  /-- All locks come before the first write. -/
  locks_first : ended.2.log.Pairwise LocksFirst
  /-- Once it has begun, the transaction ends as its body does. -/
  ends : ∀ entered, Session.perform interference now enter ⟨database, []⟩ = (.ok (), entered) →
    let body := entered.perform interference now (body lockTimeout work)
    ∃ inner ending, body.2.log = ⟨.begin, .done⟩ :: inner ∧
      (∀ sent ∈ inner, sent.statement.isBoundary = false) ∧
      ended.2.log = ⟨.begin, .done⟩ :: inner ++ [⟨closing body.1, ending⟩]
  /-- A failure without a commit leaves no trace. -/
  restores : ∀ error, ended.1 = .error error →
    (∀ sent ∈ ended.2.log, sent.statement ≠ .commit) → ended.2.database.tables = database.tables

/-- After its body a transaction sends one more statement, and succeeds only if its body has. -/
theorem perform_transact_of_entered (lockTimeout : Nat) (work : UnitOfWork α)
    {session entered : Session}
    (hentered : session.perform interference now enter = (.ok (), entered)) :
    let ended := session.perform interference now (transact lockTimeout work)
    let body := entered.perform interference now (body lockTimeout work)
    ended.2 = (body.2.answer interference now (.send (closing body.1))).2 ∧
      ∀ value, ended.1 = .ok value → body.1 = .ok value := by
  intro ended body
  have hended : ended = goOn (body.2.perform interference now (send (closing body.1)))
      fun _ last => (body.1, last) := by
    rw [show ended = _ from Session.perform_transact lockTimeout work session, hentered, goOn_ok]
  rw [hended, Session.perform_send]
  rcases body.2.answer interference now (.send (closing body.1)) with ⟨failure | result, last⟩
  · exact ⟨rfl, nofun⟩
  · exact ⟨rfl, fun _ houtcome => houtcome⟩

theorem isWrite_closing (outcome : Except StockError α) : (closing outcome).isWrite = false := by
  cases outcome <;> rfl

theorem isLock_closing (outcome : Except StockError α) : (closing outcome).isLock = false := by
  cases outcome <;> rfl

/-- A transaction is atomic, and where it has succeeded its requests had come to a stage as its unit
of work promises. -/
theorem transact_atomic {lockTimeout : Nat} {database : Database} (hidle : database.begun = none)
    {work : UnitOfWork α} {post : Except StockError α → TwoPhase → Prop}
    (hwork : Conforms TwoPhase.protocol post work .start)
    (hfailed : ∀ error, post (.error error) .start) :
    let ended := Session.perform interference now (transact lockTimeout work) ⟨database, []⟩
    Atomic lockTimeout interference now database work ended ∧
      ∀ value, ended.1 = .ok value → ∃ last : TwoPhase, post (.ok value) last ∧
        (last.hasWritten = false → ∀ sent ∈ ended.2.log, sent.statement.isWrite = false) := by
  intro ended
  rcases hentered : Session.perform interference now enter ⟨database, []⟩ with ⟨outcome, entered⟩
  have henter := perform_enter hidle interference now
  rw [hentered] at henter
  rcases henter with ⟨houtcome, hunderway⟩ | ⟨⟨error, herror⟩, htables, hlog⟩
  · obtain rfl : outcome = .ok () := houtcome
    obtain ⟨hended, hsucceeds⟩ :=
      perform_transact_of_entered lockTimeout work hentered
    obtain ⟨last, inner, hpost, hinner⟩ :=
      hunderway.body hwork hfailed interference now lockTimeout
    let body := entered.perform interference now (body lockTimeout work)
    have hlog : ∃ ending, ended.2.log =
        ⟨.begin, .done⟩ :: inner ++ [⟨closing body.1, ending⟩] := by
      rw [show ended.2 = _ from hended,
        ← show body.2.log = ⟨.begin, .done⟩ :: inner from hinner.log]
      exact ⟨_, rfl⟩
    obtain ⟨ending, hlog⟩ := hlog
    refine ⟨⟨?_, fun _ hsame => ?_, fun error herror hkept => ?_⟩, fun value hvalue => ?_⟩
    · rw [hlog]
      refine List.pairwise_append.2 ⟨List.pairwise_cons.2 ⟨fun _ _ hwrite => ?_, hinner.ordered⟩,
        List.pairwise_singleton _ _, fun _ _ later hlater _ => ?_⟩
      · cases hwrite
      · rw [List.mem_singleton.1 hlater]
        exact isLock_closing body.1
    · rw [hentered] at hsame
      cases hsame
      exact ⟨inner, ending, hinner.log, hinner.plain, hlog⟩
    · rw [hlog] at hkept
      cases hfinal : body.1 with
      | ok value =>
        refine absurd ?_ (hkept _ (List.mem_append_right _ (List.mem_singleton_self _)))
        rw [hfinal]
        rfl
      | error error =>
        rw [show ended.2 = _ from hended,
          show (entered.perform interference now _).1 = _ from hfinal]
        exact hinner.holds.tables_rollback _
    · refine ⟨last, ?_, fun hread => ?_⟩
      · rw [← hsucceeds value hvalue]
        exact hpost
      · rw [hlog]
        refine List.forall_mem_append.2 ⟨List.forall_mem_cons.2 ⟨rfl, hinner.unwritten hread⟩, ?_⟩
        exact List.forall_mem_singleton.2 (isWrite_closing body.1)
  · have hended : ended = (.error error, entered) := by
      rw [show ended = _ from Session.perform_transact lockTimeout work _, hentered,
        show outcome = .error error from herror, goOn_error]
    rw [hended]
    refine ⟨⟨?_, fun _ hsucceeded => ?_, fun _ _ _ => htables⟩, nofun⟩
    · rcases hlog with hlog | ⟨ending, hlog⟩
      · exact hlog ▸ .nil
      · exact hlog ▸ List.pairwise_singleton _ _
    · rw [hentered, show outcome = .error error from herror] at hsucceeded
      cases hsucceeded

/-- A resolution that finds its reservation resolved has sent no write. -/
def WritesOnlyToApply (ended : Except StockError Outcome × Session) : Prop :=
  ∀ reservation, ended.1 = .ok ⟨.alreadyResolved, reservation⟩ →
    ∀ sent ∈ ended.2.log, sent.statement.isWrite = false

/-- Units of work are atomic and lock before they write.  Whatever the tables are, and whichever
statements are refused or lose the connection: all locks come before the first write, a transaction
that has begun commits if its body succeeds and rolls back if not, a failure without a commit leaves
the tables as they were, and a resolution that finds its reservation resolved writes nothing. -/
theorem units_of_work_atomic (lockTimeout : Nat) (interference : Nat → Interference)
    (now : Instant) (database : Database) (hidle : database.begun = none) :
    (∀ (call : StoreCall) (work : UnitOfWork call.Value), call.work? = some work →
      Atomic lockTimeout interference now database work
        (Session.perform interference now (Database.call lockTimeout call) ⟨database, []⟩)) ∧
    ∀ id resolution instant, WritesOnlyToApply (Session.perform interference now
      (Database.call lockTimeout (.resolve id resolution instant)) ⟨database, []⟩) := by
  refine ⟨fun call work hwork => ?_, fun id resolution instant reservation hresolved => ?_⟩
  · rw [call_of_work? lockTimeout hwork]
    exact (transact_atomic hidle (StoreCall.ordered_of_work? hwork) fun _ => trivial).1
  · have hfailed (error : StockError) :
        UnitOfWork.WritesToApply (.error error) TwoPhase.start := by
      intro outcome houtcome
      cases houtcome
    obtain ⟨last, hpost, hwrites⟩ := (transact_atomic hidle
      (UnitOfWork.resolve_writesToApply id resolution instant) hfailed).2 _ hresolved
    exact hwrites (hpost _ rfl rfl)

/-- An order of cups and plates is refused at the second of its updates, and takes no cup.
Releasing an order that was released writes nothing. -/
theorem units_of_work_atomic_of_refused_update :
    let record (id : Nat) (product : ProductId) : StockRecord :=
      .create (Uuid.ofNat id) product .one .zero .epoch
    let cup : ProductId := ⟨"cup", by decide⟩
    let plate : ProductId := ⟨"plate", by decide⟩
    let order : Reservation :=
      ⟨Uuid.ofNat 3, "order", [⟨plate, .one⟩, ⟨cup, .one⟩], .pending, .epoch, .epoch, .epoch⟩
    let released : ReservationRow := ⟨Uuid.ofNat 4, "other", "RELEASED", .epoch, .epoch, .epoch⟩
    let tables : Tables :=
      ⟨[InventoryCells.ofRow (InventoryRow.ofRecord (record 1 cup)),
        InventoryCells.ofRow (InventoryRow.ofRecord (record 2 plate))],
        [ReservationCells.ofRow released], [ItemCells.ofRow ⟨released.id, 0, "cup", 1⟩], []⟩
    let database : Database := ⟨tables, none, false, true, true, []⟩
    let interference (place : Nat) : Interference :=
      if place = 5 then .refusal ⟨"55P03", "canceling statement due to lock timeout"⟩ else .none
    let ended := Session.perform interference .epoch (Database.call 5000 (.reserve order))
      ⟨database, []⟩
    let resolved := Session.perform interference .epoch
      (Database.call 5000 (.resolve (Uuid.ofNat 4) .release .epoch)) ⟨database, []⟩
    database.begun = none ∧
      (∃ error, ended.1 = .error error) ∧ ended.2.log.length = 7 ∧
        ended.2.log.any (fun sent =>
          sent.statement.isWrite && decide (sent.ending = .done)) = true ∧
        ended.2.log.Pairwise LocksFirst ∧ ended.2.database.tables = tables ∧
      ∃ reservation, resolved.1 = .ok ⟨.alreadyResolved, reservation⟩ ∧
        ∀ sent ∈ resolved.2.log, sent.statement.isWrite = false := by
  intro record cup plate order released tables database interference ended resolved
  obtain ⟨hatomic, hresolves⟩ := units_of_work_atomic 5000 interference .epoch database rfl
  have hended : Atomic 5000 interference .epoch database (UnitOfWork.reserve order) ended :=
    hatomic (.reserve order) (UnitOfWork.reserve order) rfl
  have hspared : WritesOnlyToApply resolved := hresolves (Uuid.ofNat 4) .release .epoch
  have hfailed : ended.1.toOption.isNone = true := by decide +kernel
  have hlength : ended.2.log.length = 7 := by decide +kernel
  have hwritten : ended.2.log.any (fun sent =>
      sent.statement.isWrite && decide (sent.ending = .done)) = true := by decide +kernel
  have hcommits : ended.2.log.any (fun sent => sent.statement matches .commit) = false := by
    decide +kernel
  have hreleased : resolved.1.toOption.map (·.transition) = some .alreadyResolved := by
    decide +kernel
  -- From here on the runs need not be looked into any more.
  clear_value ended resolved
  obtain ⟨outcome, houtcome, htransition⟩ := Option.map_eq_some_iff.1 hreleased
  have hresolved : resolved.1 = .ok ⟨.alreadyResolved, outcome.reservation⟩ := by
    rw [toOption_eq_some_iff.1 houtcome, ← htransition]
  refine ⟨rfl, ?_, hlength, hwritten, hended.locks_first, ?_, outcome.reservation, hresolved,
    hspared outcome.reservation hresolved⟩
  all_goals
    rcases ended with ⟨error | value, session⟩
  · exact ⟨error, rfl⟩
  · cases hfailed
  · refine hended.restores error rfl fun sent hsent hcommit => ?_
    have hcommitted := List.any_eq_false.1 hcommits sent hsent
    rw [hcommit] at hcommitted
    exact hcommitted rfl
  · cases hfailed

end Stockroom.Database
