import Stockroom.Database.Store
import Stockroom.Proofs.Program
import Stockroom.Proofs.Stock.Arithmetic

/-!
# A database that serves

What calls yield on a database that refuses no statement, but for a unique key
or a check that the statement violates.  A call begins either on an idle
database or on an open connection, within a transaction or without one.
-/

namespace Stockroom.Database

/-- Whether a statement was carried out, or refused for a key or a check. -/
def Ending.isOrderly : Ending → Bool
  | .done => true
  | .refused refusal => refusal.code == Refusal.uniqueCode || refusal.code == "23514"
  | .lost => false

/-- Every statement so far was carried out, or refused for a key or a check. -/
def Served (database : Database) : Prop :=
  ∀ sent ∈ database.sent, sent.ending.isOrderly = true

instance (database : Database) : Decidable database.Served :=
  inferInstanceAs (Decidable (∀ sent ∈ database.sent, sent.ending.isOrderly = true))

/-- Runs a call, with nothing that interferes. -/
def perform {α : Type} (now : Instant) (call : DatabaseCall α) (database : Database) :
    Except StockError α × Database :=
  Program.run (answer (fun _ => .none) now) call.run database

section Sent

theorem Served.of_prefix {database later : Database} (hearlier : database.sent <+: later.sent)
    (hserved : later.Served) : database.Served :=
  fun sent hsent => hserved sent (hearlier.subset hsent)

theorem sent_fail (database : Database) (statement : Statement) :
    (database.fail statement).sent = database.sent := by
  cases statement <;> rfl

/-- A statement other than a boundary is carried out in a sound transaction, when it can be bound
and the tables permit it. -/
theorem carryOutOn_eq_ok {database after : Database} {statement : Statement}
    {result : statement.Result} (hdone : database.carryOutOn statement = .ok (result, after)) :
    database.aborted = false ∧ bindingRefusal? statement = none ∧
      database.tables.execute statement = .ok (result, after.tables) ∧
        after = { database with tables := after.tables } := by
  rw [carryOutOn] at hdone
  cases haborted : database.aborted with
  | true =>
    rw [haborted] at hdone
    cases hdone
  | false =>
    cases hrefusal : bindingRefusal? statement with
    | some refusal =>
      rw [haborted, hrefusal] at hdone
      cases hdone
    | none =>
      rw [haborted, hrefusal] at hdone
      cases hexecute : database.tables.execute statement with
      | error refusal =>
        simp only [hexecute] at hdone
        cases hdone
      | ok executed =>
        simp only [hexecute] at hdone
        cases hdone
        exact ⟨rfl, rfl, rfl, rfl⟩

/-- A statement other than a boundary changes nothing but the tables. -/
theorem eq_of_carryOutOn {database after : Database} {statement : Statement}
    {result : statement.Result} (hdone : database.carryOutOn statement = .ok (result, after)) :
    after = { database with tables := after.tables } :=
  (carryOutOn_eq_ok hdone).2.2.2

theorem sent_carryOutOn {database after : Database} {statement : Statement}
    {result : statement.Result} (hdone : database.carryOutOn statement = .ok (result, after)) :
    after.sent = database.sent := by
  rw [eq_of_carryOutOn hdone]

theorem sent_carryOut {database after : Database} {statement : Statement}
    {result : statement.Result} (hdone : database.carryOut statement = .ok (result, after)) :
    after.sent = database.sent := by
  unfold carryOut at hdone
  split at hdone
  · cases hdone
    rfl
  · cases hdone
    split <;> rfl
  · cases hdone
    rfl
  · exact sent_carryOutOn hdone

theorem prefix_answer (now : Instant) (request : DatabaseRequest) (database : Database) :
    database.sent <+: (answer (fun _ => .none) now request database).2.sent := by
  cases request with
  | connect =>
    change _ <+: (establish database).2.sent
    rw [establish]
    split
    · exact List.prefix_rfl
    · split <;> exact List.prefix_rfl
  | present => exact List.prefix_rfl
  | send statement =>
    change _ <+: (database.run .none statement).2.sent
    rw [run]
    split
    · exact List.prefix_rfl
    · cases hdone : database.carryOut statement with
      | ok done =>
        simp only [record, sent_carryOut hdone]
        exact List.prefix_append _ _
      | error refusal =>
        simp only [refuse, record, sent_fail]
        exact List.prefix_append _ _

theorem prefix_run {α : Type} (now : Instant)
    (program : DatabaseProgram α) (database : Database) :
    database.sent <+: (program.run (answer (fun _ => .none) now) database).2.sent := by
  have hstep (request : DatabaseRequest) (state : Database)
      (hearlier : database.sent <+: state.sent) :
      database.sent <+: (answer (fun _ => .none) now request state).2.sent :=
    hearlier.trans (prefix_answer now request state)
  exact @Program.run_keeps _ _ _ _ _ (fun state : Database => database.sent <+: state.sent) hstep
    program _ List.prefix_rfl

/-- What a call began with was served if the call was. -/
theorem Served.of_perform {α : Type} {now : Instant} {call : DatabaseCall α} {database : Database}
    (hserved : (perform now call database).2.Served) : database.Served :=
  hserved.of_prefix (prefix_run now call.run database)

end Sent

/-! ## Calls on an open connection -/

/-- An open connection whose transaction, if there is one, is of use. -/
structure Stands (begun : Option Tables) (tables : Tables) (database : Database) : Prop where
  reachable : database.reachable = true
  connected : database.connected = true
  sound : database.aborted = false
  begun : database.begun = begun
  tables : database.tables = tables

section Yields

variable {α β : Type} {now : Instant} {begun : Option Tables} {tables middle : Tables}

theorem perform_bind (call : DatabaseCall α) (next : α → DatabaseCall β) (database : Database) :
    perform now (call >>= next) database =
      Program.goOn (perform now call database) fun value after =>
        perform now (next value) after :=
  Program.run_exceptT_bind (answer (fun _ => .none) now) call next database

theorem perform_trySend (statement : Statement) (database : Database) :
    perform now (trySend statement) database =
      (.ok (database.run .none statement).1, (database.run .none statement).2) := rfl

theorem perform_send (statement : Statement) (database : Database) :
    perform now (send statement) database =
      ((database.run .none statement).1.mapError Failure.toStockError,
        (database.run .none statement).2) := rfl

/-- On an open connection to some tables a call that is served has a result, and leaves the
tables so. -/
def Yields (now : Instant) (call : DatabaseCall α) (begun : Option Tables) (tables : Tables)
    (result : Except StockError α × Tables) : Prop :=
  ∀ database : Database, database.Stands begun tables → (perform now call database).2.Served →
    (perform now call database).1 = result.1 ∧ (perform now call database).2.Stands begun result.2

theorem Yields.pure (value : α) : Yields now (pure value) begun tables (.ok value, tables) :=
  fun _ hstands _ => ⟨rfl, hstands⟩

theorem Yields.throw (error : StockError) :
    Yields now (throw error : DatabaseCall α) begun tables (.error error, tables) :=
  fun _ hstands _ => ⟨rfl, hstands⟩

theorem Yields.bind {call : DatabaseCall α} {next : α → DatabaseCall β} {value : α}
    {result : Except StockError β × Tables}
    (hcall : Yields now call begun tables (.ok value, middle))
    (hnext : Yields now (next value) begun middle result) :
    Yields now (call >>= next) begun tables result := by
  intro database hstands hserved
  have hmiddle : (perform now call database).2.Served := by
    rw [perform_bind] at hserved
    rcases hperform : perform now call database with ⟨outcome, after⟩
    rw [hperform] at hserved
    cases outcome with
    | ok value => exact hserved.of_perform
    | error error => exact hserved
  obtain ⟨houtcome, hafter⟩ := hcall database hstands hmiddle
  rw [perform_bind] at hserved ⊢
  rw [show perform now call database = (.ok value, (perform now call database).2) from
    Prod.ext houtcome rfl, Program.goOn_ok] at hserved ⊢
  exact hnext _ hafter hserved

/-- A program that asks for a row goes on as it was answered by statements. -/
theorem Yields.interpret_ask {request : RowRequest}
    {resume : request.Answer → Program RowRequest RowRequest.Answer (Except StockError α)}
    {answered : request.Answer} {result : Except StockError α × Tables}
    (hrow : Yields now (answerRow request) begun tables (answered, middle))
    (hrest : Yields now (ExceptT.mk (Program.interpret (fun request => (answerRow request).run)
      (resume answered))) begun middle result) :
    Yields now (ExceptT.mk (Program.interpret (fun request => (answerRow request).run)
      (.ask request resume))) begun tables result := by
  intro database hstands hserved
  have hperform : perform now (ExceptT.mk (Program.interpret
      (fun request => (answerRow request).run) (.ask request resume))) database =
        perform now (ExceptT.mk (Program.interpret (fun request => (answerRow request).run)
          (resume (perform now (answerRow request) database).1)))
            (perform now (answerRow request) database).2 :=
    Program.run_bind _ (answerRow request).run _ database
  rw [hperform] at hserved ⊢
  obtain ⟨hanswered, hafter⟩ := hrow database hstands hserved.of_perform
  rw [hanswered] at hserved ⊢
  exact hrest _ hafter hserved

/-- A statement other than the begin or the end of a transaction. -/
def Statement.IsPlain (statement : Statement) : Prop :=
  (∀ database, carryOut database statement = database.carryOutOn statement) ∧
    ∀ database, fail database statement = { database with aborted := database.begun.isSome }

theorem run_of_connected {statement : Statement} (hplain : statement.IsPlain)
    {database : Database} (hconnected : database.connected = true) :
    database.run .none statement =
      match database.carryOutOn statement with
      | .ok (result, after) => (.ok result, after.record statement .done)
      | .error refusal => (.error (.refused refusal), database.refuse statement refusal) := by
  rw [run, hconnected, ← hplain.1]
  rfl

/-- A plain statement is carried out or refused as the tables have it, unless it cannot be
bound. -/
theorem run_of_stands {statement : Statement} (hplain : statement.IsPlain) {database : Database}
    (hstands : database.Stands begun tables)
    (hserved : (database.run .none statement).2.Served) :
    database.run .none statement =
      match tables.execute statement with
      | .ok (result, after) =>
        (.ok result, { database with tables := after }.record statement .done)
      | .error refusal => (.error (.refused refusal), database.refuse statement refusal) := by
  rw [run_of_connected hplain hstands.connected] at hserved ⊢
  rw [carryOutOn, hstands.sound] at hserved ⊢
  cases hrefusal : bindingRefusal? statement with
  | none =>
    simp only [hstands.tables]
    cases tables.execute statement <;> rfl
  | some refusal =>
    rw [hrefusal] at hserved
    change (database.refuse statement refusal).Served at hserved
    have horderly : (Ending.refused refusal).isOrderly = true :=
      hserved ⟨statement, .refused refusal⟩
        (List.mem_append_right _ (List.mem_singleton_self _))
    rw [bindingRefusal?] at hrefusal
    split at hrefusal
    · cases hrefusal
      cases horderly
    · split at hrefusal
      · cases hrefusal
        cases horderly
      · cases hrefusal

theorem Yields.send {statement : Statement} (hplain : statement.IsPlain)
    {result : statement.Result} {after : Tables}
    (hexecute : tables.execute statement = .ok (result, after)) :
    Yields now (send statement) begun tables (.ok result, after) := by
  intro database hstands hserved
  rw [perform_send] at hserved ⊢
  rw [run_of_stands hplain hstands hserved, hexecute]
  exact ⟨rfl, hstands.reachable, hstands.connected, hstands.sound, hstands.begun, rfl⟩

theorem Yields.trySend {statement : Statement} (hplain : statement.IsPlain)
    {result : statement.Result} {after : Tables}
    (hexecute : tables.execute statement = .ok (result, after)) :
    Yields now (trySend statement) begun tables (.ok (.ok result), after) := by
  intro database hstands hserved
  rw [perform_trySend] at hserved ⊢
  rw [run_of_stands hplain hstands hserved, hexecute]
  exact ⟨rfl, hstands.reachable, hstands.connected, hstands.sound, hstands.begun, rfl⟩

/-- A refused statement leaves the tables as they were, and outside of a transaction nothing
else. -/
theorem Yields.trySend_refused {statement : Statement} (hplain : statement.IsPlain)
    {refusal : Refusal} (hexecute : tables.execute statement = .error refusal) :
    Yields now (Database.trySend statement) none tables
      (.ok (.error (.refused refusal)), tables) := by
  intro database hstands hserved
  rw [perform_trySend] at hserved ⊢
  rw [run_of_stands hplain hstands hserved, hexecute]
  refine ⟨rfl, ?_⟩
  dsimp only
  rw [refuse, hplain.2]
  refine ⟨hstands.reachable, hstands.connected, ?_, hstands.begun, hstands.tables⟩
  change database.begun.isSome = false
  rw [hstands.begun]
  rfl

end Yields

/-! ## Calls on an idle database -/

/-- A database that can be reached, with no transaction open. -/
structure Idle (tables : Tables) (database : Database) : Prop where
  reachable : database.reachable = true
  sound : database.aborted = false
  begun : database.begun = none
  tables : database.tables = tables

section Answers

variable {α β : Type} {now : Instant} {tables after : Tables}

/-- On an idle database with some tables a call that is served has a result, and leaves the
database idle and the tables so. -/
def Answers (now : Instant) (call : DatabaseCall α) (tables : Tables)
    (result : Except StockError α × Tables) : Prop :=
  ∀ database : Database, database.Idle tables → (perform now call database).2.Served →
    (perform now call database).1 = result.1 ∧ (perform now call database).2.Idle result.2

/-- A call that connects goes on on an open connection. -/
theorem Answers.connected {next : Unit → DatabaseCall β} {result : Except StockError β × Tables}
    (hnext : Yields now (next ()) none tables result) :
    Answers now (connect >>= next) tables result := by
  intro database hidle hserved
  have hconnect : perform now connect database = (.ok (), { database with connected := true }) := by
    change establish database = _
    rw [establish]
    cases hconnected : database.connected with
    | true => rw [if_pos rfl, ← hconnected]
    | false => rw [if_neg Bool.false_ne_true, if_pos hidle.reachable]
  rw [perform_bind, hconnect, Program.goOn_ok] at hserved ⊢
  obtain ⟨houtcome, hstands⟩ :=
    hnext { database with connected := true }
      ⟨hidle.reachable, rfl, hidle.sound, hidle.begun, hidle.tables⟩ hserved
  exact ⟨houtcome, hstands.reachable, hstands.sound, hstands.begun, hstands.tables⟩

theorem Answers.pure (value : α) : Answers now (pure value) tables (.ok value, tables) :=
  fun _ hidle _ => ⟨rfl, hidle⟩

theorem perform_lift (program : DatabaseProgram α) (database : Database) :
    perform now (ExceptT.lift program) database =
      (.ok (program.run (answer (fun _ => .none) now) database).1,
        (program.run (answer (fun _ => .none) now) database).2) := by
  refine (Program.run_bind _ program _ database).trans ?_
  rfl

theorem perform_begin (now : Instant) {database : Database}
    (hstands : database.Stands none tables) :
    ∃ begun, perform now (send .begin) database = (.ok (), begun) ∧
      begun.Stands (some tables) tables := by
  refine ⟨(database.run .none .begin).2, ?_, ?_⟩
  · rw [perform_send, run, hstands.connected]
    rfl
  · rw [run, hstands.connected]
    exact ⟨hstands.reachable, hstands.connected, rfl, congrArg some hstands.tables, hstands.tables⟩

theorem perform_commit (now : Instant) {begun : Option Tables} {database : Database}
    (hstands : database.Stands begun tables) :
    ∃ ended, perform now (send .commit) database = (.ok (), ended) ∧ ended.Stands none tables := by
  have hcommit : database.carryOut .commit = .ok ((), { database with begun := none }) := by
    rw [carryOut, hstands.sound]
    rfl
  refine ⟨(database.run .none .commit).2, ?_, ?_⟩
  · rw [perform_send, run, hstands.connected, hcommit]
    rfl
  · rw [run, hstands.connected, hcommit]
    exact ⟨hstands.reachable, hstands.connected, hstands.sound, rfl, hstands.tables⟩

theorem perform_rollback (now : Instant) {begun : Tables} {database : Database}
    (hstands : database.Stands (some begun) tables) :
    ∃ ended, perform now (send .rollback) database = (.ok (), ended) ∧
      ended.Stands none begun := by
  refine ⟨(database.run .none .rollback).2, ?_, ?_⟩
  · rw [perform_send, run, hstands.connected]
    rfl
  · rw [run, hstands.connected]
    refine ⟨hstands.reachable, hstands.connected, rfl, rfl, ?_⟩
    change database.begun.getD database.tables = begun
    rw [hstands.begun]
    rfl

/-- What a transaction leaves: it commits when its work is done. -/
def committed (outcome : Except StockError α) (tables after : Tables) : Tables :=
  match outcome with
  | .ok _ => after
  | .error _ => tables

/-- A transaction ends as its body does, and takes the tables back when that has failed. -/
theorem Answers.transact {lockTimeout : Nat} {work : UnitOfWork α} {outcome : Except StockError α}
    (hbody : Yields now (body lockTimeout work) (some tables) tables (outcome, after)) :
    Answers now (transact lockTimeout work) tables
      (outcome, committed outcome tables after) := by
  refine Answers.connected fun database hstands hserved => ?_
  obtain ⟨opened, hbegin, hopen⟩ := perform_begin now hstands
  rw [perform_bind, hbegin, Program.goOn_ok, perform_bind, perform_lift, Program.goOn_ok]
    at hserved ⊢
  change (perform now _ (perform now (body lockTimeout work) opened).2).2.Served at hserved
  obtain ⟨houtcome, hafter⟩ := hbody opened hopen hserved.of_perform
  have hrun : (Program.run (answer (fun _ => .none) now) (body lockTimeout work).run opened).1 =
    outcome := houtcome
  rw [hrun]
  change (perform now _ (perform now (body lockTimeout work) opened).2).1 = _ ∧
    (perform now _ (perform now (body lockTimeout work) opened).2).2.Stands _ _
  cases outcome with
  | ok value =>
    obtain ⟨ended, hcommit, hended⟩ := perform_commit now hafter
    dsimp only
    rw [perform_bind, hcommit]
    exact ⟨rfl, hended⟩
  | error error =>
    obtain ⟨ended, hrollback, hended⟩ := perform_rollback now hafter
    dsimp only
    rw [perform_bind, hrollback]
    exact ⟨rfl, hended⟩

end Answers

end Stockroom.Database
