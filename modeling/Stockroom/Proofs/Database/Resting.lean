import Stockroom.Proofs.Database.Alone
import Stockroom.Proofs.Database.Succeeding

/-!
# What calls leave behind

Between calls of the store no transaction is open, and the tables can be read.
That stays so whatever interferes with the statements of a call: a transaction
leaves the tables of its work, or those that it began on.
-/

namespace Stockroom.Database

open Program (Conforms Secures goOn goOn_ok)

variable {α : Type} {interference : Nat → Interference} {now : Instant} {tables : Tables}
  {contents : Contents} {database : Database}

/-- No transaction is open, and the tables can be read. -/
def Rests (database : Database) : Prop :=
  ∃ contents : Contents, contents.Readable ∧ database.Idle contents.tables

theorem rests_empty : Database.empty.Rests :=
  ⟨.empty, .empty, rfl, rfl, rfl, rfl⟩

theorem Idle.of_stands (hstands : database.Stands none tables) : database.Idle tables :=
  ⟨hstands.reachable, hstands.sound, hstands.begun, hstands.tables⟩

theorem Idle.record (hidle : database.Idle tables) (statement : Statement) (ending : Ending) :
    (database.record statement ending).Idle tables :=
  ⟨hidle.reachable, hidle.sound, hidle.begun, hidle.tables⟩

/-- A connection that is lost outside of a transaction leaves the tables as they are. -/
theorem Idle.lose (hidle : database.Idle tables) : database.lose.Idle tables := by
  refine ⟨hidle.reachable, rfl, rfl, ?_⟩
  rw [Database.lose, restored, hidle.begun]
  exact hidle.tables

theorem Idle.establish (hidle : database.Idle tables) : database.establish.2.Idle tables := by
  rw [Database.establish]
  split
  · exact hidle
  · split
    · exact ⟨hidle.reachable, hidle.sound, hidle.begun, hidle.tables⟩
    · exact hidle

theorem connected_of_establish (hdone : database.establish.1 = .ok ()) :
    database.establish.2.connected = true := by
  rw [Database.establish] at hdone ⊢
  split
  · assumption
  · rename_i hclosed
    rw [if_neg hclosed] at hdone
    split
    · rfl
    · rename_i hunreachable
      rw [if_neg hunreachable] at hdone
      cases hdone

/-- Outside of a transaction a statement is carried out, or it changes nothing. -/
theorem Idle.run (hidle : database.Idle tables) {statement : Statement}
    (hinside : statement.isBoundary = false) (interference : Interference) :
    ∃ after, (database.run interference statement).2.Idle after ∧
      (after = tables ∨ ∃ result, bindingRefusal? statement = none ∧
        tables.execute statement = .ok (result, after)) := by
  have hrefused (refusal : Refusal) : (database.refuse statement refusal).Idle tables := by
    have hfail : database.fail statement = { database with aborted := database.begun.isSome } := by
      cases statement <;> first | rfl | cases hinside
    rw [refuse, hfail]
    refine ⟨hidle.reachable, ?_, hidle.begun, hidle.tables⟩
    change database.begun.isSome = false
    rw [hidle.begun]
    rfl
  have hcarried {done : statement.Result × Database}
      (hdone : database.carryOut statement = .ok done) : done.2.Idle done.2.tables ∧
        bindingRefusal? statement = none ∧
          tables.execute statement = .ok (done.1, done.2.tables) := by
    rw [carryOut_inside hinside] at hdone
    obtain ⟨haborted, hbound, hexecute, hafter⟩ := carryOutOn_eq_ok hdone
    rw [hidle.tables] at hexecute
    refine ⟨?_, hbound, hexecute⟩
    rw [hafter]
    exact ⟨hidle.reachable, haborted, hidle.begun, rfl⟩
  cases hconnected : database.connected with
  | false =>
    rw [run_lost hconnected]
    exact ⟨tables, hidle, .inl rfl⟩
  | true =>
    rw [run_connected hconnected]
    cases interference with
    | refusal refusal => exact ⟨tables, hrefused refusal, .inl rfl⟩
    | lossBefore => exact ⟨tables, hidle.lose.record _ _, .inl rfl⟩
    | lossAfter =>
      cases hdone : database.carryOut statement with
      | error refusal => exact ⟨tables, hidle.lose.record _ _, .inl rfl⟩
      | ok done =>
        obtain ⟨hafter, hexecuted⟩ := hcarried hdone
        exact ⟨done.2.tables, hafter.lose.record _ _, .inr ⟨done.1, hexecuted⟩⟩
    | none =>
      cases hdone : database.carryOut statement with
      | error refusal => exact ⟨tables, hrefused refusal, .inl rfl⟩
      | ok done =>
        obtain ⟨hafter, hexecuted⟩ := hcarried hdone
        exact ⟨done.2.tables, hafter.record _ _, .inr ⟨done.1, hexecuted⟩⟩

/-! ## The beginning and the end of a transaction -/

/-- A transaction is entered on the tables as they are, or not at all. -/
theorem enter_cases (hidle : database.Idle tables) (interference : Nat → Interference)
    (now : Instant) :
    (∃ entered, Session.perform interference now enter ⟨database, []⟩ = (.ok (), entered) ∧
      entered.Stands (some tables) tables ∧
        Underway tables [⟨.begin, .done⟩] [] .start entered) ∨
    ∃ error left, Session.perform interference now enter ⟨database, []⟩ = (.error error, left) ∧
      left.database.Idle tables := by
  have hconnect : Session.perform interference now connect ⟨database, []⟩ =
      (database.establish.1, ⟨database.establish.2, []⟩) := rfl
  have hopen := @connected_of_establish database
  have hidle := hidle.establish
  rw [enter, Session.perform_bind, hconnect]
  rcases hestablished : database.establish with ⟨error | ⟨⟩, connected⟩ <;>
    rw [hestablished] at hidle hopen
  · exact .inr ⟨error, ⟨connected, []⟩, rfl, hidle⟩
  · have hopen : connected.connected = true := hopen rfl
    have hlost : connected.lose.Idle tables := hidle.lose
    rw [goOn_ok, Session.perform_send, Session.answer]
    simp only [run_connected hopen]
    cases interference ([] : List Sent).length with
    | refusal refusal =>
      refine .inr ⟨_, _, rfl, hidle.reachable, ?_, hidle.begun, hidle.tables⟩
      change connected.begun.isSome = false
      rw [hidle.begun]
      rfl
    | lossBefore => exact .inr ⟨_, _, rfl, hlost.record _ _⟩
    | lossAfter => exact .inr ⟨_, _, rfl, hidle.reachable, rfl, rfl, hidle.tables⟩
    | none =>
      have hbegun : some connected.tables = some tables := congrArg some hidle.tables
      refine .inl ⟨_, rfl, ⟨hidle.reachable, hopen, rfl, hbegun, hidle.tables⟩, ?_⟩
      exact ⟨.inl ⟨hopen, hbegun⟩, rfl, fun _ hmem => (List.not_mem_nil hmem).elim,
        fun _ _ hmem => (List.not_mem_nil hmem).elim, .nil⟩

/-- A commit keeps what was done, or fails, and then it may have kept it or not. -/
theorem commit_cases {begun : Tables} {session : Session}
    (hstands : session.Stands (some begun) tables) (interference : Nat → Interference)
    (now : Instant) :
    (∃ ended, session.perform interference now (send .commit) = (.ok (), ended) ∧
      ended.Stands none tables) ∨
    ∃ error left, session.perform interference now (send .commit) = (.error error, left) ∧
      (left.database.Idle tables ∨ left.database.Idle begun) := by
  have hcommit : session.database.carryOut .commit =
      .ok ((), { session.database with begun := none }) := by
    rw [carryOut, if_neg (ne_true_of_eq_false hstands.sound)]
  have hcommitted : Idle tables { session.database with begun := none } :=
    ⟨hstands.reachable, hstands.sound, rfl, hstands.tables⟩
  have hlost : session.database.lose.Idle begun :=
    ⟨hstands.reachable, rfl, rfl, tables_lose hstands.begun⟩
  rw [Session.perform_send, Session.answer]
  simp only [run_connected hstands.connected]
  cases interference session.log.length with
  | refusal refusal | lossBefore => exact .inr ⟨_, _, rfl, .inr (hlost.record _ _)⟩
  | lossAfter =>
    rw [hcommit]
    exact .inr ⟨_, _, rfl, .inl (hcommitted.lose.record _ _)⟩
  | none =>
    rw [hcommit]
    exact .inl ⟨_, rfl, hstands.reachable, hstands.connected, hstands.sound, rfl, hstands.tables⟩

/-- A lost connection has no transaction. -/
structure Loose (database : Database) : Prop where
  reachable : database.reachable = true
  begun : database.connected = false → database.begun = none
  sound : database.connected = false → database.aborted = false

theorem Loose.of_connected (hreachable : database.reachable = true)
    (hconnected : database.connected = true) : database.Loose :=
  ⟨hreachable, fun hlost => (nomatch hconnected.symm.trans hlost),
    fun hlost => (nomatch hconnected.symm.trans hlost)⟩

theorem carryOut_keeps {statement : Statement} {done : statement.Result × Database}
    (hdone : database.carryOut statement = .ok done) :
    done.2.reachable = database.reachable ∧ done.2.connected = database.connected := by
  unfold carryOut at hdone
  split at hdone
  · cases hdone
    exact ⟨rfl, rfl⟩
  · cases hdone
    dsimp only
    split <;> exact ⟨rfl, rfl⟩
  · cases hdone
    exact ⟨rfl, rfl⟩
  · rw [(carryOutOn_eq_ok hdone).2.2.2]
    exact ⟨rfl, rfl⟩

/-- Whatever happens to a statement, a connection that it loses has no transaction. -/
theorem Loose.run (hloose : database.Loose) (interference : Interference)
    (statement : Statement) : (database.run interference statement).2.Loose := by
  cases hconnected : database.connected with
  | false =>
    rw [run_lost hconnected]
    exact hloose
  | true =>
    have hrefused (refusal : Refusal) : (database.refuse statement refusal).Loose := by
      cases statement with
      | commit | rollback => exact ⟨hloose.reachable, fun _ => rfl, fun _ => rfl⟩
      | _ => exact .of_connected hloose.reachable hconnected
    have hlost : (database.lose.record statement .lost).Loose :=
      ⟨hloose.reachable, fun _ => rfl, fun _ => rfl⟩
    rw [run_connected hconnected]
    cases interference with
    | refusal refusal => exact hrefused refusal
    | lossBefore => exact hlost
    | lossAfter =>
      cases hdone : database.carryOut statement with
      | error refusal => exact hlost
      | ok done =>
        exact ⟨(carryOut_keeps hdone).1.trans hloose.reachable, fun _ => rfl, fun _ => rfl⟩
    | none =>
      cases hdone : database.carryOut statement with
      | error refusal => exact hrefused refusal
      | ok done =>
        obtain ⟨hreachable, hstays⟩ := carryOut_keeps hdone
        exact .of_connected (hreachable.trans hloose.reachable) (hstays.trans hconnected)

theorem Loose.establish (hloose : database.Loose) : database.establish.2.Loose := by
  rw [Database.establish]
  split
  · exact hloose
  · split
    · exact .of_connected hloose.reachable rfl
    · exact hloose

theorem Loose.perform {session : Session} (hloose : session.database.Loose)
    (interference : Nat → Interference) (now : Instant) (call : DatabaseCall α) :
    (session.perform interference now call).2.database.Loose := by
  have hstep (request : DatabaseRequest) (session : Session) (hloose : session.database.Loose) :
      (session.answer interference now request).2.database.Loose := by
    cases request with
    | connect => exact hloose.establish
    | present => exact hloose
    | send statement => exact hloose.run _ statement
  exact Program.run_keeps hstep call.run hloose

/-- Whatever happens to a rollback, the tables are back and no transaction is open. -/
theorem Loose.rollback {begun : Tables} {session : Session} (hloose : session.database.Loose)
    (hholds : session.database.Holds begun) (interference : Nat → Interference) (now : Instant) :
    (session.perform interference now (send .rollback)).2.database.Idle begun := by
  have htables := hholds.tables_rollback (interference session.log.length)
  rw [Session.perform_send, Session.answer]
  dsimp only
  generalize interference session.log.length = happens at htables ⊢
  cases hconnected : session.database.connected with
  | false =>
    rw [run_lost hconnected] at htables ⊢
    exact ⟨hloose.reachable, hloose.sound hconnected, hloose.begun hconnected, htables⟩
  | true =>
    rw [run_connected hconnected] at htables ⊢
    cases happens <;> exact ⟨hloose.reachable, rfl, rfl, htables⟩

/-! ## Whole transactions -/

/-- After a transaction the tables can be read, and if it succeeded they are what its work has
made of them. -/
theorem transact_leaves (lockTimeout : Nat) (hidle : database.Idle contents.tables)
    (hreadable : contents.Readable) {work : UnitOfWork α} (hordered : work.Ordered)
    {post : α → Prop} {known : α → Contents → Prop}
    (hwork : Secures (Session.answerRow interference now)
      (Session.Stands (some contents.tables) contents.tables) work
      fun value last => post value ∧ last.Reads (some contents.tables) (known value)) :
    let ended := Session.perform interference now (transact lockTimeout work) ⟨database, []⟩
    ended.2.database.Rests ∧
      ∀ value, ended.1 = .ok value → post value ∧ ended.2.Reads none (known value) := by
  dsimp only
  rw [Session.perform_transact]
  rcases enter_cases hidle interference now with
    ⟨entered, hentered, hstands, hunderway⟩ | ⟨error, left, hfailed, hleft⟩
  · obtain ⟨_, inner, _, hinner⟩ :=
      hunderway.body hordered (fun _ => trivial) interference now lockTimeout
    have hloose := Loose.perform (.of_connected hstands.reachable hstands.connected)
      interference now (body lockTimeout work)
    have hbody := secures_body lockTimeout hwork entered
    rw [hentered, goOn_ok]
    dsimp only
    rcases hended : entered.perform interference now (body lockTimeout work) with
      ⟨error | value, inside⟩ <;> rw [hended] at hinner hloose
    · -- The work has failed.  Whatever happens to the rollback, the old tables are back.
      have hrolled := hloose.rollback hinner.holds interference now
      rw [closing]
      rcases hclosed : inside.perform interference now (send .rollback) with ⟨_ | ⟨⟩, last⟩ <;>
        rw [hclosed] at hrolled <;> exact ⟨⟨contents, hreadable, hrolled⟩, nofun⟩
    · obtain ⟨hpost, _, hopen, later, rfl, hlater, hknown⟩ := hbody value inside hstands hended
      rcases commit_cases hopen interference now with
        ⟨last, hcommitted, hlast⟩ | ⟨error, left, hfailed, hleft⟩
      · rw [closing, hcommitted, goOn_ok]
        refine ⟨⟨later, hlater, .of_stands hlast⟩, fun found hfound => ?_⟩
        cases hfound
        exact ⟨hpost, _, hlast, later, rfl, hlater, hknown⟩
      · -- A commit that reports a failure may have been carried out before the connection was lost.
        rw [closing, hfailed]
        refine ⟨?_, nofun⟩
        rcases hleft with hkept | hrestored
        · exact ⟨later, hlater, hkept⟩
        · exact ⟨contents, hreadable, hrestored⟩
  · rw [hfailed]
    exact ⟨⟨contents, hreadable, hleft⟩, nofun⟩

/-! ## Calls without a transaction -/

theorem Statement.StandsAlone.readable {statement : Statement} (halone : statement.StandsAlone)
    (hreadable : contents.Readable) (hbound : bindingRefusal? statement = none)
    {result : statement.Result} {after : Tables}
    (hexecute : contents.tables.execute statement = .ok (result, after)) :
    after.ReadAs fun _ => True := by
  cases statement with
  | insertInventory row =>
    obtain ⟨record, rfl⟩ := halone
    exact (hreadable.inserted hbound hexecute).2.imp fun _ _ => trivial
  | insertProcessed row => exact hreadable.recorded hexecute
  | begin | commit | rollback => cases halone.1
  | updateInventory _ | deleteInventory _ | insertReservation _ | settleReservation _ _ _
  | insertItems _ => cases halone.2.1
  | _ =>
    cases hexecute
    exact ⟨contents, rfl, hreadable, trivial⟩

/-- Statements that stand alone leave tables that can be read. -/
theorem Rests.of_alone (hrests : database.Rests) {call : DatabaseCall α}
    (hcall : Conforms alone (fun _ _ => True) call ()) (interference : Nat → Interference)
    (now : Instant) :
    (Session.perform interference now call ⟨database, []⟩).2.database.Rests := by
  have hstep (_ : Unit) (session : Session) (request : DatabaseRequest)
      (hrests : session.database.Rests) (hallowed : alone.allows () request) :
      True ∧ (session.answer interference now request).2.database.Rests := by
    obtain ⟨contents, hreadable, hidle⟩ := hrests
    cases request with
    | connect => exact ⟨trivial, contents, hreadable, hidle.establish⟩
    | present => exact ⟨trivial, contents, hreadable, hidle⟩
    | send statement =>
      have halone : statement.StandsAlone := hallowed
      obtain ⟨after, hafter, rfl | ⟨result, hbound, hexecute⟩⟩ :=
        hidle.run halone.inside (interference session.log.length)
      · exact ⟨trivial, contents, hreadable, hafter⟩
      · obtain ⟨later, rfl, hlater, _⟩ := halone.readable hreadable hbound hexecute
        exact ⟨trivial, later, hlater, hafter⟩
  have hstart : (Session.mk database []).database.Rests := hrests
  obtain ⟨_, _, hlast⟩ := hcall.run.run hstep hstart
  exact hlast

end Stockroom.Database
