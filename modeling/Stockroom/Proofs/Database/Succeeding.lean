import Stockroom.Proofs.Database.Mirroring
import Stockroom.Proofs.Database.Readable
import Stockroom.Proofs.Database.Transaction
import Stockroom.Proofs.Store.Effects

/-!
# What a success leaves

Whatever interferes with its statements, a unit of work that has succeeded has
had all of them carried out.  Then the rows that it has written are found in
the tables, as their columns keep them.
-/

namespace Stockroom.Database

open Program (Secures)

variable {α β : Type} {interference : Nat → Interference} {now : Instant} {begun : Option Tables}
  {tables : Tables} {contents : Contents}

namespace Session

/-- The connection of the session is open, on such tables. -/
def Stands (begun : Option Tables) (tables : Tables) (session : Session) : Prop :=
  session.database.Stands begun tables

/-- The connection is open, on tables that can be read as contents of which something is known. -/
def Reads (begun : Option Tables) (known : Contents → Prop) (session : Session) : Prop :=
  ∃ tables : Tables, session.Stands begun tables ∧ tables.ReadAs known

/-- Answers a request for a row by statements. -/
def answerRow (interference : Nat → Interference) (now : Instant) (request : RowRequest)
    (session : Session) : request.Answer × Session :=
  session.perform interference now (Database.answerRow request)

end Session

/-! ## Statements that were carried out -/

/-- A statement with a result was carried out. -/
theorem carried_of_answer {statement : Statement} (hinside : statement.isBoundary = false)
    {session last : Session} {result : statement.Result} (hstands : session.Stands begun tables)
    (hanswer : session.answer interference now (.send statement) = (.ok result, last)) :
    bindingRefusal? statement = none ∧ ∃ after,
      tables.execute statement = .ok (result, after) ∧ last.Stands begun after := by
  rw [Session.answer, run_connected hstands.connected] at hanswer
  cases hplace : interference session.log.length with
  | refusal refusal | lossBefore =>
    rw [hplace] at hanswer
    cases hanswer
  | lossAfter =>
    rw [hplace] at hanswer
    cases hdone : session.database.carryOut statement with
    | error refusal | ok done =>
      rw [hdone] at hanswer
      cases hanswer
  | none =>
    rw [hplace] at hanswer
    cases hdone : session.database.carryOut statement with
    | error refusal =>
      rw [hdone] at hanswer
      cases hanswer
    | ok done =>
      rw [hdone] at hanswer
      cases hanswer
      rw [carryOut_inside hinside] at hdone
      obtain ⟨_, hbound, hexecute, hafter⟩ := carryOutOn_eq_ok hdone
      rw [hstands.tables] at hexecute
      refine ⟨hbound, done.2.tables, hexecute, ?_⟩
      change (done.2.record statement .done).Stands begun done.2.tables
      rw [hafter]
      exact ⟨hstands.reachable, hstands.connected, hstands.sound, hstands.begun, rfl⟩

theorem secures_send {statement : Statement} (hinside : statement.isBoundary = false) :
    Secures (Session.answer interference now) (Session.Stands begun tables) (send statement)
      fun result last => bindingRefusal? statement = none ∧ ∃ after,
        tables.execute statement = .ok (result, after) ∧ last.Stands begun after := by
  intro session result last hstands hrun
  have hsent : session.perform interference now (send statement) = (.ok result, last) := hrun
  rw [Session.perform_send] at hsent
  rcases hanswer : session.answer interference now (.send statement) with ⟨failure | value, after⟩
  · rw [hanswer] at hsent
    cases hsent
  · rw [hanswer] at hsent
    cases hsent
    exact carried_of_answer hinside hstands hanswer

/-- After a statement that was carried out a call goes on. -/
theorem secures_send_bind {statement : Statement} {next : statement.Result → DatabaseCall α}
    {post : α → Session → Prop} (hinside : statement.isBoundary = false)
    (hnext : ∀ result after, bindingRefusal? statement = none →
      tables.execute statement = .ok (result, after) →
        Secures (Session.answer interference now) (Session.Stands begun after) (next result) post) :
    Secures (Session.answer interference now) (Session.Stands begun tables)
      (send statement >>= next) post := by
  refine (secures_send hinside).bind fun result session value last hsent hrun => ?_
  obtain ⟨hbound, after, hexecute, hstands⟩ := hsent
  exact hnext result after hbound hexecute session value last hstands hrun

/-! ## Requests for rows that succeeded -/

/-- A unit of work goes on after a request as its statements leave the tables. -/
theorem secures_request_bind {request : RowRequest} {next : request.Value → UnitOfWork α}
    {before : Session → Prop} {middle : request.Value → Session → Prop}
    {post : α → Session → Prop}
    (hrequest : Secures (Session.answer interference now) before (answerRow request) middle)
    (hnext : ∀ value, Secures (Session.answerRow interference now) (middle value) (next value)
      post) :
    Secures (Session.answerRow interference now) before (UnitOfWork.request request >>= next)
      post := by
  have hasked : Secures (Session.answerRow interference now) before (UnitOfWork.request request)
      middle := hrequest
  exact hasked.bind hnext

/-- A record is locked as the tables have it. -/
theorem secures_lockProduct (product : ProductId) :
    Secures (Session.answer interference now) (Session.Stands begun contents.tables)
      (answerRow (.lockProduct product)) fun record last =>
        contents.records.find? (·.product == product) = some record ∧
          last.Stands begun contents.tables := by
  refine secures_send_bind rfl fun row after _ hexecute => ?_
  rw [contents.execute_lockInventory] at hexecute
  cases hexecute
  cases contents.records.find? (·.product == product) with
  | none => exact Secures.throw
  | some record =>
    change Secures _ _ (convert (InventoryRow.ofRecord record).toRecord) _
    rw [InventoryRow.toRecord_ofRecord]
    exact Secures.pure fun _ hstands => ⟨rfl, hstands⟩

/-- A reservation is locked as the tables have it, with its lines. -/
theorem secures_lockReservation (hreadable : contents.Readable) (id : Uuid) :
    Secures (Session.answer interference now) (Session.Stands begun contents.tables)
      (answerRow (.lockReservation id)) fun reservation last =>
        contents.reservations.find? (·.id == id) = some reservation ∧
          last.Stands begun contents.tables := by
  refine secures_send_bind rfl fun row after _ hexecute => ?_
  rw [contents.execute_lockReservation] at hexecute
  cases hexecute
  cases hfound : contents.reservations.find? (·.id == id) with
  | none => exact Secures.throw
  | some reservation =>
    have hmem := List.mem_of_find?_eq_some hfound
    obtain rfl : reservation.id = id := by simpa using List.find?_some hfound
    change Secures _ _ (do
      let items ← send (.itemsOf [reservation.id])
      convert ((ReservationRow.ofReservation reservation).toReservation
        (← readRows (items.mapM ItemCells.row?)))) _
    refine secures_send_bind rfl fun items after _ hexecute => ?_
    rw [contents.execute_itemsOf, Contents.itemsOf_singleton hreadable.toSound hmem] at hexecute
    cases hexecute
    rw [mapM_row?]
    change Secures _ _ (convert ((ReservationRow.ofReservation reservation).toReservation
      (ItemRow.rows reservation))) _
    rw [ReservationRow.toReservation_rows (hreadable.lines reservation hmem).1]
    exact Secures.pure fun _ hstands => ⟨rfl, hstands⟩

/-- Any record may be written.  What is known of the reservations stays so. -/
theorem secures_writeRecord (hreadable : contents.Readable) (record : StockRecord) :
    Secures (Session.answer interference now) (Session.Stands begun contents.tables)
      (answerRow (.writeRecord record)) fun _ =>
        Session.Reads begun fun later => later.reservations = contents.reservations := by
  refine (secures_send rfl).mono fun _ last hsent => ?_
  obtain ⟨hbound, after, hexecute, hstands⟩ := hsent
  exact ⟨after, hstands, hreadable.updated hbound hexecute⟩

/-- A record that is written over the one it succeeds is found. -/
theorem secures_writeRecord_found (hreadable : contents.Readable) {record updated : StockRecord}
    (hfound : contents.records.find? (·.product == updated.product) = some record)
    (hsucceeds : Succeeds updated record) :
    Secures (Session.answer interference now) (Session.Stands begun contents.tables)
      (answerRow (.writeRecord updated)) fun _ => Session.Reads begun fun later =>
        later.records.find? (·.product == updated.product) = some updated.inRow := by
  refine (secures_send rfl).mono fun _ last hsent => ?_
  obtain ⟨_, after, hexecute, hstands⟩ := hsent
  exact ⟨after, hstands, hreadable.updated_found hfound hsucceeds hexecute⟩

theorem secures_removeProduct (hreadable : contents.Readable) (product : ProductId) :
    Secures (Session.answer interference now) (Session.Stands begun contents.tables)
      (answerRow (.removeProduct product)) fun _ => Session.Reads begun fun _ => True := by
  refine (secures_send rfl).mono fun _ last hsent => ?_
  obtain ⟨_, after, hexecute, hstands⟩ := hsent
  exact ⟨after, hstands, hreadable.removed hexecute⟩

/-- A reservation that is added is found, unless it has no lines. -/
theorem secures_addReservation (hreadable : contents.Readable) {reservation : Reservation}
    (hlines : reservation.lines ≠ [])
    (hpositive : ∀ line ∈ reservation.lines, 0 < line.quantity.value) :
    Secures (Session.answer interference now) (Session.Stands begun contents.tables)
      (answerRow (.addReservation reservation)) fun _ => Session.Reads begun fun later =>
        later.reservations.find? (·.id == reservation.id) = some reservation.inRow := by
  refine secures_send_bind rfl fun _ middle _ hinserted => ?_
  refine Secures.result_bind fun items hitems => ?_
  refine (secures_send rfl).mono fun _ last hsent => ?_
  obtain ⟨_, after, hexecute, hstands⟩ := hsent
  exact ⟨after, hstands, hreadable.added hlines hpositive hinserted hitems hexecute⟩

theorem secures_settleReservation (hreadable : contents.Readable) {reservation : Reservation}
    (hfound : contents.reservations.find? (·.id == reservation.id) = some reservation)
    (status : Status) (time : Instant) :
    let settled := { reservation with status := status, updatedAt := time }
    Secures (Session.answer interference now) (Session.Stands begun contents.tables)
      (answerRow (.settleReservation settled)) fun _ => Session.Reads begun fun later =>
        later.reservations.find? (·.id == reservation.id) = some settled.inRow := by
  intro settled
  refine (secures_send rfl).mono fun _ last hsent => ?_
  obtain ⟨_, after, hexecute, hstands⟩ := hsent
  exact ⟨after, hstands, hreadable.settled hfound status time hexecute⟩

/-! ## Units of work that succeeded -/

section Work

variable {post : α → Session → Prop} {known : Contents → Prop}

/-- What is secured on all contents is secured on the contents that the tables are read as. -/
theorem secures_of_reads {work : UnitOfWork α}
    (hwork : ∀ contents : Contents, contents.Readable → known contents →
      Secures (Session.answerRow interference now) (Session.Stands begun contents.tables) work
        post) :
    Secures (Session.answerRow interference now) (Session.Reads begun known) work post := by
  intro session value last hreads hrun
  obtain ⟨_, hstands, contents, rfl, hreadable, hknown⟩ := hreads
  exact hwork contents hreadable hknown session value last hstands hrun

/-- A unit of work goes on with a record as the tables have it. -/
theorem secures_lockProduct_bind {product : ProductId} {next : StockRecord → UnitOfWork α}
    (hnext : ∀ record, contents.records.find? (·.product == product) = some record →
      Secures (Session.answerRow interference now) (Session.Stands begun contents.tables)
        (next record) post) :
    Secures (Session.answerRow interference now) (Session.Stands begun contents.tables)
      (UnitOfWork.request (.lockProduct product) >>= next) post := by
  refine secures_request_bind (secures_lockProduct product) fun record => ?_
  rintro session value last ⟨hfound, hstands⟩ hrun
  exact hnext record hfound session value last hstands hrun

/-- A unit of work goes on with a reservation as the tables have it. -/
theorem secures_lockReservation_bind (hreadable : contents.Readable) {id : Uuid}
    {next : Reservation → UnitOfWork α}
    (hnext : ∀ reservation, contents.reservations.find? (·.id == id) = some reservation →
      Secures (Session.answerRow interference now) (Session.Stands begun contents.tables)
        (next reservation) post) :
    Secures (Session.answerRow interference now) (Session.Stands begun contents.tables)
      (UnitOfWork.request (.lockReservation id) >>= next) post := by
  refine secures_request_bind (secures_lockReservation hreadable id) fun reservation => ?_
  rintro session value last ⟨hfound, hstands⟩ hrun
  exact hnext reservation hfound session value last hstands hrun

theorem secures_lockProducts (copy : WorkingCopy) (products : List ProductId) :
    Secures (Session.answerRow interference now) (Session.Stands begun contents.tables)
      (UnitOfWork.lockProducts copy products) fun _ =>
        Session.Stands begun contents.tables := by
  induction products generalizing copy with
  | nil => exact Secures.pure fun _ hstands => hstands
  | cons product rest ih => exact secures_lockProduct_bind fun record _ => ih _

theorem secures_writeRecords (hreadable : contents.Readable) (records : List StockRecord) :
    Secures (Session.answerRow interference now) (Session.Stands begun contents.tables)
      (UnitOfWork.writeRecords records) fun _ =>
        Session.Reads begun fun later => later.reservations = contents.reservations := by
  induction records generalizing contents with
  | nil => exact Secures.pure fun _ hstands => ⟨_, hstands, contents, rfl, hreadable, rfl⟩
  | cons record rest ih =>
    refine secures_request_bind (secures_writeRecord hreadable record) fun _ => ?_
    refine secures_of_reads fun later hlater hsame => ?_
    rw [← hsame]
    exact ih hlater

/-- The record that a change returns is the one that is found. -/
theorem secures_change (hreadable : contents.Readable) (product : ProductId)
    {edit : StockRecord → Except Violation StockRecord}
    (hedit : ∀ record updated, edit record = .ok updated → Succeeds updated record) :
    Secures (Session.answerRow interference now) (Session.Stands begun contents.tables)
      (UnitOfWork.change product edit) fun updated last =>
        (∃ record : StockRecord, record.inRow = record ∧ edit record = .ok updated) ∧
          last.Reads begun fun later =>
            later.records.find? (·.product == product) = some updated.inRow := by
  refine secures_lockProduct_bind fun record hfound => ?_
  refine Secures.result_bind fun updated hupdated => ?_
  have hedited := mapError_eq_ok_iff.1 hupdated
  have hsucceeds := hedit record updated hedited
  have hkept := hreadable.keptRecords record (List.mem_of_find?_eq_some hfound)
  obtain rfl : updated.product = product :=
    hsucceeds.product.trans (by simpa using List.find?_some hfound)
  refine secures_request_bind (secures_writeRecord_found hreadable hfound hsucceeds) fun _ => ?_
  exact Secures.pure fun _ hreads => ⟨⟨record, hkept, hedited⟩, hreads⟩

theorem secures_delete (hreadable : contents.Readable) (product : ProductId) :
    Secures (Session.answerRow interference now) (Session.Stands begun contents.tables)
      (UnitOfWork.delete product) fun _ => Session.Reads begun fun _ => True := by
  refine secures_lockProduct_bind fun record _ => ?_
  dsimp only
  split
  · exact Secures.throw
  · exact secures_removeProduct hreadable product

/-- The reservation that is made is the one that is found. -/
theorem secures_reserve (hreadable : contents.Readable) {reservation : Reservation}
    (hlines : reservation.lines ≠ []) :
    Secures (Session.answerRow interference now) (Session.Stands begun contents.tables)
      (UnitOfWork.reserve reservation) fun made last => made = reservation ∧
        last.Reads begun fun later =>
          later.reservations.find? (·.id == reservation.id) = some reservation.inRow := by
  refine (secures_lockProducts _ _).bind fun locked => ?_
  refine Secures.result_bind fun held hheld => ?_
  rw [WorkingCopy.hold, WorkingCopy.holdLines_eq] at hheld
  have hpositive : ∀ line ∈ reservation.lines, 0 < line.quantity.value := by
    intro line hmem
    obtain ⟨record, updated, hedit⟩ := WorkingCopy.edit_of_editLines hheld hmem
    exact (StockRecord.reserve_eq_ok_iff.1 (WorkingCopy.holdEdit_eq_ok_iff.1 hedit)).1
  refine (secures_writeRecords hreadable held.values).bind fun _ => ?_
  refine secures_of_reads fun later hlater _ => ?_
  refine secures_request_bind (secures_addReservation hlater hlines hpositive) fun _ => ?_
  exact Secures.pure fun _ hreads => ⟨rfl, hreads⟩

/-- The reservation that a resolution returns is the one that is found, if it was applied. -/
theorem secures_resolve (hreadable : contents.Readable) (id : Uuid) (resolution : Resolution)
    (time : Instant) :
    Secures (Session.answerRow interference now) (Session.Stands begun contents.tables)
      (UnitOfWork.resolve id resolution time) fun outcome last =>
        (time.inColumn = time → outcome.reservation.inRow = outcome.reservation) ∧
          last.Reads begun fun later => outcome.wasApplied = true →
            later.reservations.find? (·.id == id) = some outcome.reservation.inRow := by
  refine secures_lockReservation_bind hreadable fun reservation hfound => ?_
  have hkept := hreadable.keptReservations reservation (List.mem_of_find?_eq_some hfound)
  obtain rfl : reservation.id = id := by simpa using List.find?_some hfound
  dsimp only
  split
  · rename_i hterminal
    refine Secures.result_bind fun settled hsettled => ?_
    have hresolve := mapError_eq_ok_iff.1 hsettled
    rw [Reservation.resolve_terminal (by simpa [Reservation.isTerminal_eq] using hterminal)]
      at hresolve
    split at hresolve
    · cases hresolve
    · cases hresolve
      exact Secures.pure fun _ hstands =>
        ⟨fun _ => hkept, _, hstands, contents, rfl, hreadable, nofun⟩
  · rename_i hlive
    have hpending : reservation.isPending = true := by
      simpa [Reservation.isTerminal_eq] using hlive
    refine (secures_lockProducts _ _).bind fun locked => ?_
    refine Secures.result_bind fun settled hsettled => ?_
    have hresolve := mapError_eq_ok_iff.1 hsettled
    rw [Reservation.resolve_pending hpending] at hresolve
    split at hresolve
    · cases hresolve
      refine Secures.result_bind fun edited _ => ?_
      refine (secures_writeRecords hreadable edited.values).bind fun _ => ?_
      -- Writing records leaves the reservation where it was found when it was locked.
      refine secures_of_reads fun later hlater hsame => ?_
      rw [← hsame] at hfound
      refine secures_request_bind
        (secures_settleReservation hlater hfound resolution.status time) fun _ => ?_
      refine Secures.pure fun _ hreads => ⟨fun htime => ?_, ?_⟩
      · obtain ⟨hexpires, hcreated, _⟩ := Reservation.inRow_eq_iff.1 hkept
        exact Reservation.inRow_eq_iff.2 ⟨hexpires, hcreated, htime⟩
      · obtain ⟨tables, hstands, hread⟩ := hreads
        exact ⟨tables, hstands, hread.imp fun _ hsettled _ => hsettled⟩
    · cases hresolve

/-- The body of a transaction secures what its work does. -/
theorem secures_body (lockTimeout : Nat) {work : UnitOfWork α}
    (hwork : Secures (Session.answerRow interference now) (Session.Stands begun tables) work post) :
    Secures (Session.answer interference now) (Session.Stands begun tables)
      (body lockTimeout work) post := by
  refine secures_send_bind rfl fun _ after _ hexecute => ?_
  cases hexecute
  intro session value last hstands hrun
  apply hwork session value last hstands
  rw [← hrun]
  exact (Program.run_interpret _ _ _ _).symm

end Work

end Stockroom.Database
