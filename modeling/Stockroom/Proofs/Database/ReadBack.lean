import Stockroom.Proofs.Database.Calls
import Stockroom.Proofs.Database.Resting

/-!
# Rows read back

An insertion returns the row that it has put into the table, and the record of
this row is what a creation returns.  A lookup that nothing interferes with
finds the record of a row, or puts a reservation together with its lines.  The
record that a transaction has changed stands in the tables as its columns keep
it.
-/

namespace Stockroom

namespace Database

open Program (Secures goOn_ok)

variable {α : Type} {interference : Nat → Interference} {now : Instant} {begun : Option Tables}
  {tables : Tables} {contents : Contents} {database : Database}

/-! ## Records that were created -/

section Create

variable {post : α → Session → Prop}

theorem secures_connect_bind {next : Unit → DatabaseCall α}
    (hnext : Secures (Session.answer interference now) (Session.Stands none tables) (next ())
      post) :
    Secures (Session.answer interference now) (fun session => session.database.Idle tables)
      (connect >>= next) post := by
  have hconnect : Secures (Session.answer interference now)
      (fun session => session.database.Idle tables) connect
      fun _ => Session.Stands none tables := by
    intro session done last hidle hrun
    have hopen := @connected_of_establish session.database
    have hafter := hidle.establish
    change (session.database.establish.1, Session.mk session.database.establish.2 session.log) =
      (.ok done, last) at hrun
    obtain ⟨hdone, rfl⟩ := Prod.mk.inj hrun
    exact ⟨hafter.reachable, hopen hdone, hafter.sound, hafter.begun, hafter.tables⟩
  exact hconnect.bind fun _ => hnext

theorem secures_trySend_bind {statement : Statement}
    {next : Except Failure statement.Result → DatabaseCall α}
    (hinside : statement.isBoundary = false)
    (hnext : ∀ result after, bindingRefusal? statement = none →
      tables.execute statement = .ok (result, after) →
        Secures (Session.answer interference now) (Session.Stands begun after)
          (next (.ok result)) post)
    (hfailed : ∀ failure, Secures (Session.answer interference now) (fun _ => True)
      (next (.error failure)) post) :
    Secures (Session.answer interference now) (Session.Stands begun tables)
      (trySend statement >>= next) post := by
  intro session value last hstands hrun
  rw [Program.run_exceptT_bind] at hrun
  have hsent : Program.run (Session.answer interference now) (trySend statement).run session =
      (.ok (session.answer interference now (.send statement)).1,
        (session.answer interference now (.send statement)).2) := rfl
  rw [hsent, goOn_ok] at hrun
  rcases hanswer : session.answer interference now (.send statement) with ⟨failure | result, after⟩
  · rw [hanswer] at hrun
    exact hfailed failure after value last trivial hrun
  · rw [hanswer] at hrun
    obtain ⟨hbound, later, hexecute, hlater⟩ := carried_of_answer hinside hstands hanswer
    exact hnext result later hbound hexecute after value last hlater hrun

end Create

/-- A record that was created is returned as it was read back. -/
theorem secures_create (hreadable : contents.Readable) (record : StockRecord) :
    Secures (Session.answer interference now)
      (fun session => session.database.Idle contents.tables) (create record)
      fun made last => made = record.inRow ∧ last.Reads none fun later =>
        later.records.find? (·.product == record.product) = some record.inRow := by
  refine secures_connect_bind (secures_trySend_bind rfl ?_ ?_)
  · intro row after hbound hexecute
    obtain ⟨rfl, hread⟩ := hreadable.inserted hbound hexecute
    change Secures _ _ (convert (InventoryRow.ofRecord record.inRow).toRecord) _
    rw [InventoryRow.toRecord_ofRecord]
    exact Secures.pure fun _ hstands => ⟨rfl, after, hstands, hread⟩
  · intro failure
    dsimp only
    split <;> exact Secures.throw

/-! ## Lookups that nothing interferes with -/

theorem perform_connect_bind (hconnected : database.connected = true)
    (next : Unit → DatabaseCall α) :
    perform now (connect >>= next) database = perform now (next ()) database := by
  have hconnect : perform now connect database = (.ok (), database) := by
    change establish database = _
    rw [establish, if_pos hconnected]
  rw [perform_bind, hconnect, goOn_ok]

/-- A read is carried out on an open connection, if it can be bound. -/
theorem perform_read_bind (hstands : database.Stands begun tables) {statement : Statement}
    (hplain : statement.IsPlain) (hbound : bindingRefusal? statement = none)
    {result : statement.Result} (hexecute : tables.execute statement = .ok (result, tables))
    (next : statement.Result → DatabaseCall α) :
    ∃ last, last.Stands begun tables ∧
      perform now (send statement >>= next) database = perform now (next result) last := by
  refine ⟨{ database with tables := tables }.record statement .done,
    ⟨hstands.reachable, hstands.connected, hstands.sound, hstands.begun, rfl⟩, ?_⟩
  have hdone : database.carryOutOn statement =
      .ok (result, { database with tables := tables }) := by
    rw [carryOutOn, hstands.sound, hbound, hstands.tables]
    simp only [hexecute]
    rfl
  rw [perform_bind, perform_send, run_of_connected hplain hstands.connected, hdone]
  rfl

/-- A record of the tables is found. -/
theorem perform_find {session : Session} {product : ProductId} {record : StockRecord}
    (hreads : session.Reads none fun contents =>
      contents.records.find? (·.product == product) = some record) (later : Instant) :
    (perform later (find product) session.database).1 = .ok (some record) := by
  obtain ⟨_, hstands, contents, rfl, hreadable, hfound⟩ := hreads
  have hbound : bindingRefusal? (.findInventory product.text) = none := by
    obtain rfl : record.product = product := by simpa using List.find?_some hfound
    have hplain := hreadable.bound record (List.mem_of_find?_eq_some hfound)
    simp [bindingRefusal?, Statement.texts, Statement.documents, hplain]
  have hexecute := contents.execute_findInventory product
  rw [hfound] at hexecute
  rw [find, perform_connect_bind hstands.connected]
  obtain ⟨last, _, hread⟩ := @perform_read_bind _ later _ _ _ hstands _
    ⟨fun _ => rfl, fun _ => rfl⟩ hbound _ hexecute _
  rw [hread]
  change (perform later (do
    return some (← convert (InventoryRow.ofRecord record).toRecord)) last).1 = _
  rw [InventoryRow.toRecord_ofRecord]
  rfl

/-- A reservation of the tables is put together with its lines. -/
theorem perform_loadReservations (hstands : database.Stands begun contents.tables)
    (hreadable : contents.Readable) {reservation : Reservation}
    (hmem : reservation ∈ contents.reservations) :
    ∃ last, perform now (loadReservations [ReservationRow.ofReservation reservation]) database =
      (.ok [reservation], last) := by
  have hassemble : assemble (ItemRow.rows reservation)
      [ReservationRow.ofReservation reservation] = .ok [reservation] := by
    refine @assemble_eq _ [reservation] (List.nodup_singleton _)
      (List.forall_mem_singleton.2 (hreadable.lines reservation hmem).1)
      (List.forall_mem_singleton.2 (List.filter_eq_self.2 fun row hrow => beq_iff_eq.2 ?_))
    exact ItemRow.reservation_of_mem_rowsFrom hrow
  have hexecute := contents.execute_itemsOf [reservation.id]
  rw [Contents.itemsOf_singleton hreadable.toSound hmem] at hexecute
  obtain ⟨last, _, hread⟩ := @perform_read_bind _ now _ _ _ hstands _
    ⟨fun _ => rfl, fun _ => rfl⟩ rfl _ hexecute fun items => do
      convert (assemble (← readRows (items.mapM ItemCells.row?))
        [ReservationRow.ofReservation reservation])
  refine ⟨last, hread.trans ?_⟩
  rw [mapM_row?]
  change perform now (convert (assemble _ _)) last = _
  rw [hassemble]
  rfl

/-- A reservation of the tables is found. -/
theorem perform_findReservation {session : Session} {id : Uuid} {reservation : Reservation}
    (hreads : session.Reads none fun contents =>
      contents.reservations.find? (·.id == id) = some reservation) (later : Instant) :
    (perform later (findReservation id) session.database).1 = .ok (some reservation) := by
  obtain ⟨_, hstands, contents, rfl, hreadable, hfound⟩ := hreads
  have hexecute := contents.execute_findReservation id
  rw [hfound] at hexecute
  rw [findReservation, perform_connect_bind hstands.connected]
  obtain ⟨middle, hmiddle, hread⟩ := @perform_read_bind _ later _ _ _ hstands _
    ⟨fun _ => rfl, fun _ => rfl⟩ rfl _ hexecute _
  rw [hread]
  obtain ⟨last, hloaded⟩ := @perform_loadReservations later _ _ _ hmiddle hreadable reservation
    (List.mem_of_find?_eq_some hfound)
  change (perform later (do
    return (← loadReservations [ReservationRow.ofReservation reservation]).getLast?) middle).1 = _
  rw [perform_bind, hloaded]
  rfl

/-! ## Calls that write -/

/-- An edited record is kept as it is, if the record was and the time of the edit is. -/
theorem EditedAt.inRow_eq {record updated : StockRecord} {time : Instant}
    (hedited : EditedAt time updated record) (hkept : record.inRow = record)
    (htime : time.inColumn = time) : updated.inRow = updated := by
  obtain ⟨hrestock, hcreated, _⟩ := StockRecord.inRow_eq_iff.1 hkept
  refine StockRecord.inRow_eq_iff.2 ⟨?_, ?_, ?_⟩
  · rcases hedited.restock with hsame | hrestocked
    · rw [hsame, hrestock]
    · rw [hrestocked, Option.map_some, htime]
  · rw [hedited.createdAt, hcreated]
  · rw [hedited.updatedAt, htime]

/-- The record of a change that succeeded is found. -/
theorem change_leaves (lockTimeout : Nat) (hidle : database.Idle contents.tables)
    (hreadable : contents.Readable) (product : ProductId)
    {edit : StockRecord → Except Violation StockRecord} {time : Instant}
    (hedit : ∀ record updated, edit record = .ok updated → EditedAt time updated record) :
    let ended := Session.perform interference now
      (transact lockTimeout (UnitOfWork.change product edit)) ⟨database, []⟩
    ended.2.database.Rests ∧ ∀ updated, ended.1 = .ok updated →
      (time.inColumn = time → updated.inRow = updated) ∧ ended.2.Reads none fun later =>
        later.records.find? (·.product == product) = some updated.inRow := by
  have hsucceeds (record updated : StockRecord) (hedited : edit record = .ok updated) :
      Succeeds updated record := (hedit record updated hedited).succeeds
  refine transact_leaves lockTimeout hidle hreadable (UnitOfWork.change_ordered product edit)
    ((secures_change hreadable product hsucceeds).mono fun updated last hchanged => ?_)
  obtain ⟨⟨record, hkept, hedited⟩, hreads⟩ := hchanged
  exact ⟨(hedit record updated hedited).inRow_eq hkept, hreads⟩

theorem delete_leaves (lockTimeout : Nat) (hidle : database.Idle contents.tables)
    (hreadable : contents.Readable) (product : ProductId) :
    (Session.perform interference now (transact lockTimeout (UnitOfWork.delete product))
      ⟨database, []⟩).2.database.Rests := by
  have hdeleted := (@secures_delete interference now (some contents.tables) contents hreadable
    product).mono fun _ _ hreads => (⟨trivial, hreads⟩ : True ∧ _)
  exact (transact_leaves lockTimeout hidle hreadable (UnitOfWork.delete_ordered product)
    hdeleted).1

end Database

end Stockroom
