import Stockroom.Proofs.Store.Locking

/-!
# The rows that decide a unit of work

A unit of work goes to the records of certain products and to at most one
reservation.  What it answers and what it writes is decided by what these rows
held, and it leaves all other rows alone.
-/

namespace Stockroom

/-- Rows of a store: the records of products, and a reservation or none. -/
structure Footprint where
  products : List ProductId
  reservation : Option Uuid

namespace Footprint

/-- Two stores hold the same in the rows of a footprint. -/
structure Agrees (rows : Footprint) (store twin : MemoryStore) : Prop where
  records : ∀ product ∈ rows.products,
    twin.inventory.find? product = store.inventory.find? product
  reservations : ∀ id, rows.reservation = some id →
    twin.reservations.find? id = store.reservations.find? id

/-- A store has become another one only in the rows of a footprint. -/
structure Keeps (rows : Footprint) (before after : MemoryStore) : Prop where
  records : ∀ product, product ∉ rows.products →
    after.inventory.find? product = before.inventory.find? product
  reservations : ∀ id, rows.reservation ≠ some id →
    after.reservations.find? id = before.reservations.find? id
  processed : after.processed = before.processed

variable {rows : Footprint} {found : Option Reservation} {store twin : MemoryStore}

theorem Keeps.refl (rows : Footprint) (store : MemoryStore) : rows.Keeps store store :=
  ⟨fun _ _ => rfl, fun _ _ => rfl, rfl⟩

theorem Keeps.trans {before between after : MemoryStore} (hfirst : rows.Keeps before between)
    (hsecond : rows.Keeps between after) : rows.Keeps before after where
  records product hout := (hsecond.records product hout).trans (hfirst.records product hout)
  reservations id hout := (hsecond.reservations id hout).trans (hfirst.reservations id hout)
  processed := hsecond.processed.trans hfirst.processed

/-- Keeping to the rows of a footprint, from a store where its reservation is a known one.  The
reservation may be locked until it has been written. -/
def protocol (rows : Footprint) (found : Option Reservation) :
    Protocol RowRequest RowRequest.Answer Bool where
  allows unwritten request :=
    match request with
    | .lockProduct product | .removeProduct product => product ∈ rows.products
    | .writeRecord record => record.product ∈ rows.products
    | .lockReservation id => unwritten = true ∧ rows.reservation = some id
    | .addReservation reservation | .settleReservation reservation =>
      rows.reservation = some reservation.id
  expects _ request answer :=
    match request, answer with
    | .lockProduct product, .ok record => record.product = product
    | .lockReservation id, .ok reservation => reservation.id = id ∧ found = some reservation
    | _, _ => True
  next unwritten request _ :=
    match request with
    | .addReservation _ | .settleReservation _ => false
    | _ => unwritten

/-- What the protocol presumes of the store. -/
structure Met (rows : Footprint) (found : Option Reservation) (unwritten : Bool)
    (store : MemoryStore) : Prop where
  keyed : store.Keyed
  found : unwritten = true → ∀ id, rows.reservation = some id →
    store.reservations.find? id = found

theorem met_answerRow {unwritten : Bool} {request : RowRequest}
    (hmet : rows.Met found unwritten store)
    (hallowed : (rows.protocol found).allows unwritten request) :
    (rows.protocol found).expects unwritten request (MemoryStore.answerRow request store).1 ∧
      rows.Met found ((rows.protocol found).next unwritten request
        (MemoryStore.answerRow request store).1) (MemoryStore.answerRow request store).2 := by
  cases request with
  | lockProduct product =>
    rw [MemoryStore.answerRow]
    cases hrecord : store.inventory.find? product with
    | none => exact ⟨trivial, hmet⟩
    | some record => exact ⟨hmet.keyed.records product record hrecord, hmet⟩
  | lockReservation id =>
    rw [MemoryStore.answerRow]
    cases hreservation : store.reservations.find? id with
    | none => exact ⟨trivial, hmet⟩
    | some reservation =>
      have hfound := (hmet.found hallowed.1 id hallowed.2).symm.trans hreservation
      exact ⟨⟨hmet.keyed.reservations id reservation hreservation, hfound⟩, hmet⟩
  | writeRecord record => exact ⟨trivial, hmet.keyed.insertRecord record, hmet.found⟩
  | removeProduct product => exact ⟨trivial, hmet.keyed.eraseRecord product, hmet.found⟩
  | addReservation reservation | settleReservation reservation =>
    refine ⟨trivial, hmet.keyed.insertReservation reservation, fun hunwritten => ?_⟩
    cases hunwritten

/-- Requests for agreed rows are answered alike, and leave the rows agreed. -/
theorem agrees_answerRow {unwritten : Bool} {request : RowRequest}
    (hagrees : rows.Agrees store twin)
    (hallowed : (rows.protocol found).allows unwritten request) :
    (MemoryStore.answerRow request twin).1 = (MemoryStore.answerRow request store).1 ∧
      rows.Agrees (MemoryStore.answerRow request store).2
        (MemoryStore.answerRow request twin).2 := by
  cases request with
  | lockProduct product =>
    simp only [MemoryStore.answerRow, hagrees.records product hallowed]
    exact ⟨trivial, hagrees⟩
  | lockReservation id =>
    simp only [MemoryStore.answerRow, hagrees.reservations id hallowed.2]
    exact ⟨trivial, hagrees⟩
  | writeRecord record =>
    refine ⟨rfl, fun product hmem => ?_, hagrees.reservations⟩
    simp only [MemoryStore.answerRow, SortedMap.find?_insert, hagrees.records product hmem]
  | removeProduct removed =>
    refine ⟨rfl, fun product hmem => ?_, hagrees.reservations⟩
    simp only [MemoryStore.answerRow, SortedMap.find?_erase, hagrees.records product hmem]
  | addReservation reservation | settleReservation reservation =>
    refine ⟨rfl, hagrees.records, fun id hid => ?_⟩
    simp only [MemoryStore.answerRow, SortedMap.find?_insert, hagrees.reservations id hid]

theorem keeps_answerRow {unwritten : Bool} {request : RowRequest}
    (hallowed : (rows.protocol found).allows unwritten request) :
    rows.Keeps store (MemoryStore.answerRow request store).2 := by
  cases request with
  | lockProduct _ | lockReservation _ => exact .refl rows store
  | writeRecord record =>
    refine ⟨fun product hout => ?_, fun _ _ => rfl, rfl⟩
    have hne : record.product ≠ product := fun heq => hout (heq ▸ hallowed)
    rw [MemoryStore.answerRow, SortedMap.find?_insert, if_neg hne]
  | removeProduct removed =>
    refine ⟨fun product hout => ?_, fun _ _ => rfl, rfl⟩
    have hne : removed ≠ product := fun heq => hout (heq ▸ hallowed)
    rw [MemoryStore.answerRow, SortedMap.find?_erase, if_neg hne]
  | addReservation reservation | settleReservation reservation =>
    refine ⟨fun _ _ => rfl, fun id hout => ?_, rfl⟩
    have hne : reservation.id ≠ id := fun heq => hout (heq ▸ hallowed)
    rw [MemoryStore.answerRow, SortedMap.find?_insert, if_neg hne]

variable {α : Type} {post : α → Bool → Prop} {program : Program RowRequest RowRequest.Answer α}

/-- Stores that agree in the rows of a program are told the same, and go on to agree. -/
theorem agrees_run (hfollows : program.Follows (rows.protocol found) post true)
    (hmet : rows.Met found true store) (hagrees : rows.Agrees store twin) :
    (program.run MemoryStore.answerRow twin).1 = (program.run MemoryStore.answerRow store).1 ∧
      rows.Agrees (program.run MemoryStore.answerRow store).2
        (program.run MemoryStore.answerRow twin).2 := by
  obtain ⟨hsame, _, _, _, hlast⟩ := hfollows.lockstep MemoryStore.answerRow MemoryStore.answerRow
    (fun unwritten store twin => rows.Met found unwritten store ∧ rows.Agrees store twin)
    (fun _ => True) (fun _ _ _ => trivial)
    (fun unwritten store twin request hrelated hallowed _ => by
      obtain ⟨hanswer, hafter⟩ := agrees_answerRow hrelated.2 hallowed
      obtain ⟨hexpected, hnext⟩ := met_answerRow hrelated.1 hallowed
      exact ⟨hanswer, hexpected, hnext, hafter⟩)
    ⟨hmet, hagrees⟩ trivial
  exact ⟨hsame, hlast⟩

/-- A program changes no row outside of its footprint. -/
theorem keeps_run (hfollows : program.Follows (rows.protocol found) post true)
    (hmet : rows.Met found true store) :
    rows.Keeps store (program.run MemoryStore.answerRow store).2 := by
  have hstep (unwritten : Bool) (state : MemoryStore) (request : RowRequest)
      (hrelated : rows.Met found unwritten state ∧ rows.Keeps store state)
      (hallowed : (rows.protocol found).allows unwritten request) :
      (rows.protocol found).expects unwritten request (MemoryStore.answerRow request state).1 ∧
        rows.Met found ((rows.protocol found).next unwritten request
          (MemoryStore.answerRow request state).1) (MemoryStore.answerRow request state).2 ∧
        rows.Keeps store (MemoryStore.answerRow request state).2 := by
    obtain ⟨hexpected, hnext⟩ := met_answerRow hrelated.1 hallowed
    exact ⟨hexpected, hnext, hrelated.2.trans (keeps_answerRow hallowed)⟩
  obtain ⟨_, _, _, hkeeps⟩ := hfollows.run hstep ⟨hmet, .refl rows store⟩
  exact hkeeps

end Footprint

/-! ## Units of work -/

namespace UnitOfWork

open Program (Conforms)
open Program.Conforms

variable {rows : Footprint} {found : Option Reservation} {unwritten : Bool}

theorem lockProducts_within {copy : WorkingCopy} {products : List ProductId}
    (hcovers : copy.Covers rows.products) (hproducts : products ⊆ rows.products) :
    Conforms (rows.protocol found)
      (fun outcome _ => ∀ locked, outcome = .ok locked → locked.Covers rows.products)
      (lockProducts copy products) unwritten := by
  induction products generalizing copy with
  | nil =>
    refine .pure fun locked hlocked => ?_
    cases hlocked
    exact hcovers
  | cons product rest ih =>
    obtain ⟨hfirst, hrest⟩ := List.cons_subset.1 hproducts
    refine request_bind hfirst (fun record hproduct => ?_) fun _ _ => nofun
    exact ih (hcovers.insert hproduct hfirst) hrest

theorem writeRecords_within {records : List StockRecord}
    (hproducts : ∀ record ∈ records, record.product ∈ rows.products) :
    Conforms (rows.protocol found) (fun _ _ => True) (writeRecords records) unwritten := by
  induction records with
  | nil => exact .pure trivial
  | cons record rest ih =>
    obtain ⟨hfirst, hrest⟩ := List.forall_mem_cons.1 hproducts
    exact request_bind hfirst (fun _ _ => ih hrest) fun _ _ => trivial

/-- From a known reservation on, a unit of work keeps to the rows of a footprint. -/
def StaysWithin (rows : Footprint) (found : Option Reservation) {α : Type} (work : UnitOfWork α) :
    Prop :=
  Conforms (rows.protocol found) (fun _ _ => True) work true

theorem change_within {product : ProductId} (hmem : product ∈ rows.products)
    {edit : StockRecord → Except Violation StockRecord}
    (hkeeps : ∀ record updated, edit record = .ok updated → updated.product = record.product) :
    StaysWithin rows found (change product edit) := by
  refine request_bind hmem (fun record hproduct => ?_) fun _ _ => trivial
  refine attempt_bind (fun updated hedit => ?_) fun _ _ => trivial
  have hupdated : updated.product = product :=
    (hkeeps record updated (mapError_eq_ok_iff.1 hedit)).trans hproduct
  exact request_bind (hupdated ▸ hmem) (fun _ _ => .pure trivial) fun _ _ => trivial

theorem delete_within {product : ProductId} (hmem : product ∈ rows.products) :
    StaysWithin rows found (delete product) := by
  refine request_bind hmem (fun record _ => ?_) fun _ _ => trivial
  dsimp only
  split
  · exact .throw trivial
  · exact ⟨hmem, fun _ _ => trivial⟩

theorem reserve_within {reservation : Reservation}
    (hproducts : reservation.products ⊆ rows.products)
    (hid : rows.reservation = some reservation.id) :
    StaysWithin rows found (reserve reservation) := by
  have horder : reservation.lockOrder ⊆ rows.products := fun product hmem =>
    hproducts (Reservation.mem_lockOrder.1 hmem)
  refine (lockProducts_within (.empty _) horder).bind (fun locked last hlocked => ?_)
    fun _ _ _ => trivial
  refine attempt_bind (fun held hheld => ?_) fun _ _ => trivial
  rw [WorkingCopy.hold, WorkingCopy.holdLines_eq] at hheld
  have hcovers := (hlocked locked rfl).editLines
    (fun _ _ _ => WorkingCopy.product_of_holdEdit) hheld
  refine (writeRecords_within fun _ => hcovers.of_mem_values).bind (fun _ _ _ => ?_)
    fun _ _ _ => trivial
  exact request_bind hid (fun _ _ => .pure trivial) fun _ _ => trivial

theorem resolve_within {id : Uuid} (hid : rows.reservation = some id)
    (hproducts : ∀ reservation, found = some reservation →
      reservation.products ⊆ rows.products)
    (resolution : Resolution) (now : Instant) :
    StaysWithin rows found (resolve id resolution now) := by
  refine request_bind ⟨rfl, hid⟩ (fun reservation hreservation => ?_) fun _ _ => trivial
  obtain ⟨hsame, hfound⟩ := hreservation
  dsimp only
  split
  · exact attempt_bind (fun _ _ => .pure trivial) fun _ _ => trivial
  · have horder : reservation.lockOrder ⊆ rows.products := fun product hmem =>
      hproducts reservation hfound (Reservation.mem_lockOrder.1 hmem)
    refine (lockProducts_within (.empty _) horder).bind (fun locked last hlocked => ?_)
      fun _ _ _ => trivial
    refine attempt_bind (fun settled hsettled => ?_) fun _ _ => trivial
    split
    · exact .pure trivial
    · refine attempt_bind (fun edited hedited => ?_) fun _ _ => trivial
      rw [WorkingCopy.resolveLines_eq] at hedited
      have hcovers := (hlocked locked rfl).editLines
        (fun _ _ _ => WorkingCopy.product_of_resolveEdit) hedited
      have hsettledId := Reservation.id_of_resolve (mapError_eq_ok_iff.1 hsettled)
      refine (writeRecords_within fun _ => hcovers.of_mem_values).bind (fun _ _ _ => ?_)
        fun _ _ _ => trivial
      have hsettledRow := hid.trans (congrArg some (hsettledId.trans hsame).symm)
      exact request_bind hsettledRow (fun _ _ => .pure trivial) fun _ _ => trivial

end UnitOfWork

end Stockroom
