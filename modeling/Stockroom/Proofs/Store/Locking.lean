import Stockroom.Proofs.Program
import Stockroom.Proofs.Store.Effects

/-!
# Locks come before writes

A unit of work takes all of its locks before it writes: at most one
reservation first, then records in strictly ascending order of their products.
It writes records that it has locked, and asks for nothing more once it has
added, settled or removed a row or once a request has failed.
-/

namespace Stockroom

/-- Whether a unit of work still locks, has begun to write, or is over. -/
inductive LockMode where
  | locking
  | writing
  | over
deriving DecidableEq

/-- How far a unit of work has come, and what it has locked. -/
structure LockStage where
  mode : LockMode
  reservation : Option Uuid
  products : List ProductId

namespace LockStage

/-- Nothing has been asked for yet. -/
def start : LockStage := ⟨.locking, none, []⟩

/-- What a unit of work may ask that may add reservations of certain ids. -/
def protocol (added : Set Uuid) : Protocol RowRequest RowRequest.Answer LockStage where
  allows stage request :=
    match request with
    | .lockReservation _ =>
      stage.mode = .locking ∧ stage.reservation = none ∧ stage.products = []
    | .lockProduct product => stage.mode = .locking ∧ ∀ locked ∈ stage.products, locked < product
    | .writeRecord record => stage.mode ≠ .over ∧ record.product ∈ stage.products
    | .removeProduct product => stage.mode ≠ .over ∧ product ∈ stage.products
    | .addReservation reservation => stage.mode ≠ .over ∧ reservation.id ∈ added
    | .settleReservation reservation =>
      stage.mode ≠ .over ∧ stage.reservation = some reservation.id
  expects _ request answer :=
    match request, answer with
    | .lockProduct product, .ok record => record.product = product
    | .lockReservation id, .ok reservation => reservation.id = id
    | _, _ => True
  next stage request answer :=
    match request, answer with
    | _, .error _ => { stage with mode := .over }
    | .removeProduct _, .ok _ => { stage with mode := .over }
    | .lockReservation id, .ok _ => { stage with reservation := some id }
    | .lockProduct product, .ok _ => { stage with products := stage.products ++ [product] }
    | .writeRecord _, .ok _ => { stage with mode := .writing }
    | .addReservation _, .ok _ => { stage with mode := .over }
    | .settleReservation _, .ok _ => { stage with mode := .over }

/-- Nothing may be asked when all is over. -/
theorem eq_done_of_over {α : Type} {added : Set Uuid} {post : α → LockStage → Prop}
    {program : Program RowRequest RowRequest.Answer α} {stage : LockStage}
    (hfollows : program.Follows (protocol added) post stage) (hover : stage.mode = .over) :
    ∃ value, program = .done value := by
  cases program with
  | done value => exact ⟨value, rfl⟩
  | ask request resume =>
    have hallowed := hfollows.1
    cases request with
    | lockProduct _ | lockReservation _ =>
      exact absurd (hover.symm.trans hallowed.1) LockMode.noConfusion
    | writeRecord _ | removeProduct _ | addReservation _ | settleReservation _ =>
      exact absurd hover hallowed.1

end LockStage

namespace Program.Conforms

variable {Stage α β : Type} {protocol : Protocol RowRequest RowRequest.Answer Stage}
  {post : Except StockError β → Stage → Prop} {stage : Stage}

theorem request_bind {request : RowRequest} {next : request.Value → UnitOfWork β}
    (hallowed : protocol.allows stage request)
    (hnext : ∀ value, protocol.expects stage request (.ok value) →
      Conforms protocol post (next value) (protocol.next stage request (.ok value)))
    (hfailed : ∀ error, protocol.expects stage request (.error error) →
      post (.error error) (protocol.next stage request (.error error))) :
    Conforms protocol post (UnitOfWork.request request >>= next) stage := by
  refine ⟨hallowed, fun answer hexpected => ?_⟩
  cases answer with
  | ok value => exact (hnext value hexpected).run
  | error error => exact hfailed error hexpected

theorem attempt_bind {result : Except StockError α} {next : α → UnitOfWork β}
    (hnext : ∀ value, result = .ok value → Conforms protocol post (next value) stage)
    (hfailed : ∀ error, result = .error error → post (.error error) stage) :
    Conforms protocol post (UnitOfWork.attempt result >>= next) stage := by
  cases result with
  | ok value => exact ⟨(hnext value rfl).run⟩
  | error error => exact ⟨hfailed error rfl⟩

end Program.Conforms

namespace WorkingCopy

/-- All records of the copy are of products in a list and stand under them. -/
def Covers (copy : WorkingCopy) (products : List ProductId) : Prop :=
  ∀ product record, copy.find? product = some record →
    record.product = product ∧ product ∈ products

theorem Covers.empty (products : List ProductId) : Covers .empty products := by
  intro product record hfound
  rw [SortedMap.find?_empty] at hfound
  cases hfound

theorem Covers.insert {copy : WorkingCopy} {products : List ProductId}
    (hcovers : copy.Covers products) {product : ProductId} {record : StockRecord}
    (hproduct : record.product = product) (hmem : product ∈ products) :
    Covers (copy.insert product record) products := by
  intro sought found hfound
  rw [SortedMap.find?_insert] at hfound
  split at hfound
  · rename_i hkey
    cases hfound
    exact ⟨hproduct.trans hkey, hkey ▸ hmem⟩
  · exact hcovers sought found hfound

theorem Covers.editLines {edit : ReservationLine → StockRecord → Except StockError StockRecord}
    (hkeeps : ∀ line record updated, edit line record = .ok updated →
      updated.product = record.product)
    {lines : List ReservationLine} {copy edited : WorkingCopy} {products : List ProductId}
    (hcovers : copy.Covers products) (hedited : copy.editLines edit lines = .ok edited) :
    edited.Covers products := by
  induction lines generalizing copy with
  | nil => cases hedited; exact hcovers
  | cons line rest ih =>
    simp only [WorkingCopy.editLines, bind_eq_ok_iff, lookup_eq_ok_iff] at hedited
    obtain ⟨record, hfound, updated, hedit, hrest⟩ := hedited
    obtain ⟨hproduct, hmem⟩ := hcovers line.product record hfound
    exact ih (hcovers.insert ((hkeeps line record updated hedit).trans hproduct) hmem) hrest

theorem Covers.keyed {copy : WorkingCopy} {products : List ProductId}
    (hcovers : copy.Covers products) : copy.Keyed :=
  fun product record hfound => (hcovers product record hfound).1

theorem Covers.of_mem_values {copy : WorkingCopy} {products : List ProductId}
    (hcovers : copy.Covers products) {record : StockRecord} (hmem : record ∈ copy.values) :
    record.product ∈ products := by
  obtain ⟨product, hfound⟩ := SortedMap.mem_values_iff.1 hmem
  obtain ⟨hproduct, hlocked⟩ := hcovers product record hfound
  exact hproduct ▸ hlocked

end WorkingCopy

theorem MemoryStore.covers_of_lockAll {store : MemoryStore} (hkeyed : store.Keyed)
    {products : List ProductId} {locked : WorkingCopy}
    (hlocked : store.lockAll .empty products = .ok locked) : locked.Covers products := by
  intro product record hfound
  rw [(lockAll_eq_ok hlocked).2] at hfound
  split at hfound
  · exact ⟨hkeyed.records product record hfound, ‹_›⟩
  · cases hfound

namespace UnitOfWork

open Program (Conforms)
open Program.Conforms

variable {added : Set Uuid} {stage : LockStage} {reserved : Option Uuid}

/-- Where a unit of work stands once it has locked all the products it needs. -/
structure HasLocked (reserved : Option Uuid) (locked : WorkingCopy) (last : LockStage) : Prop where
  covers : locked.Covers last.products
  mode : last.mode = .locking
  reservation : last.reservation = reserved

theorem lockProducts_conforms {copy : WorkingCopy} {products : List ProductId}
    (hmode : stage.mode = .locking) (hreserved : stage.reservation = reserved)
    (hcovers : copy.Covers stage.products)
    (hlater : ∀ locked ∈ stage.products, ∀ product ∈ products, locked < product)
    (hascending : products.Pairwise (· < ·)) :
    Conforms (LockStage.protocol added)
      (fun outcome last => ∀ locked, outcome = .ok locked → HasLocked reserved locked last)
      (lockProducts copy products) stage := by
  induction products generalizing copy stage with
  | nil =>
    refine .pure fun locked hlocked => ?_
    cases hlocked
    exact ⟨hcovers, hmode, hreserved⟩
  | cons product rest ih =>
    obtain ⟨hfirst, hrest⟩ := List.pairwise_cons.1 hascending
    refine request_bind ⟨hmode, fun locked hmem => hlater locked hmem product (by simp)⟩
      (fun record hproduct => ?_) fun error _ => nofun
    refine ih hmode hreserved ?_ ?_ hrest
    · refine WorkingCopy.Covers.insert (fun other found hfound => ?_) hproduct
        (by simp [LockStage.protocol])
      obtain ⟨hkey, hmem⟩ := hcovers other found hfound
      exact ⟨hkey, List.mem_append_left _ hmem⟩
    · intro locked hmem later hlast
      rcases List.mem_append.1 hmem with hmem | hmem
      · exact hlater locked hmem later (List.mem_cons_of_mem _ hlast)
      · rw [List.mem_singleton.1 hmem]
        exact hfirst later hlast

theorem writeRecords_conforms {records : List StockRecord} (hmode : stage.mode ≠ .over)
    (hreserved : stage.reservation = reserved)
    (hlocked : ∀ record ∈ records, record.product ∈ stage.products) :
    Conforms (LockStage.protocol added)
      (fun outcome last => outcome = .ok () → last.mode ≠ .over ∧ last.reservation = reserved)
      (writeRecords records) stage := by
  induction records generalizing stage with
  | nil => exact .pure fun _ => ⟨hmode, hreserved⟩
  | cons record rest ih =>
    obtain ⟨hfirst, hrest⟩ := List.forall_mem_cons.1 hlocked
    exact request_bind ⟨hmode, hfirst⟩ (fun _ _ => ih LockMode.noConfusion hreserved hrest)
      fun _ _ => nofun

/-- A unit of work that starts without locks follows the protocol of locks. -/
def Locks (added : Set Uuid) {α : Type} (work : UnitOfWork α) : Prop :=
  Conforms (LockStage.protocol added) (fun _ _ => True) work .start

theorem change_locks (product : ProductId) (edit : StockRecord → Except Violation StockRecord)
    (hkeeps : ∀ record updated, edit record = .ok updated → updated.product = record.product) :
    Locks added (change product edit) := by
  refine request_bind ⟨rfl, nofun⟩ (fun record hproduct => ?_) fun _ _ => trivial
  refine attempt_bind (fun updated hedit => ?_) fun _ _ => trivial
  have hupdated := hkeeps record updated (mapError_eq_ok_iff.1 hedit)
  refine request_bind ⟨nofun, ?_⟩ (fun _ _ => .pure trivial) fun _ _ => trivial
  rw [hupdated, show record.product = product from hproduct]
  exact List.mem_singleton_self product

theorem delete_locks (product : ProductId) : Locks added (delete product) := by
  refine request_bind ⟨rfl, nofun⟩ (fun record hproduct => ?_) fun _ _ => trivial
  dsimp only
  split
  · exact .throw trivial
  · exact ⟨⟨nofun, List.mem_singleton_self product⟩, fun _ _ => trivial⟩

theorem reserve_locks {reservation : Reservation} (hadded : reservation.id ∈ added) :
    Locks added (reserve reservation) := by
  refine (lockProducts_conforms rfl rfl (WorkingCopy.Covers.empty _)
    (fun _ hmem => (List.not_mem_nil hmem).elim)
    (ProductId.pairwise_sortedDistinct _)).bind (fun locked last hlocked => ?_) fun _ _ _ => trivial
  obtain ⟨hcovers, hmode, hreserved⟩ := hlocked locked rfl
  refine attempt_bind (fun held hheld => ?_) fun _ _ => trivial
  rw [WorkingCopy.hold, WorkingCopy.holdLines_eq] at hheld
  have hcovered := hcovers.editLines (fun _ _ _ => WorkingCopy.product_of_holdEdit) hheld
  refine (writeRecords_conforms (by simp [hmode]) hreserved fun _ => hcovered.of_mem_values).bind
    (fun _ last hwritten => ?_) fun _ _ _ => trivial
  exact request_bind ⟨(hwritten rfl).1, hadded⟩ (fun _ _ => .pure trivial) fun _ _ => trivial

theorem resolve_locks (id : Uuid) (resolution : Resolution) (now : Instant) :
    Locks added (resolve id resolution now) := by
  refine request_bind ⟨rfl, rfl, rfl⟩ (fun reservation hid => ?_) fun _ _ => trivial
  dsimp only
  split
  · exact attempt_bind (fun _ _ => .pure trivial) fun _ _ => trivial
  · refine (lockProducts_conforms rfl rfl (WorkingCopy.Covers.empty _)
      (fun _ hmem => (List.not_mem_nil hmem).elim)
      (ProductId.pairwise_sortedDistinct _)).bind (fun locked last hlocked => ?_)
      fun _ _ _ => trivial
    obtain ⟨hcovers, hmode, hreserved⟩ := hlocked locked rfl
    refine attempt_bind (fun settled hsettled => ?_) fun _ _ => trivial
    split
    · exact .pure trivial
    · refine attempt_bind (fun edited hedited => ?_) fun _ _ => trivial
      rw [WorkingCopy.resolveLines_eq] at hedited
      have hcovered := hcovers.editLines (fun _ _ _ => WorkingCopy.product_of_resolveEdit) hedited
      refine (writeRecords_conforms (by simp [hmode]) hreserved
        fun _ => hcovered.of_mem_values).bind (fun _ last hwritten => ?_) fun _ _ _ => trivial
      refine request_bind ⟨(hwritten rfl).1, ?_⟩ (fun _ _ => .pure trivial) fun _ _ => trivial
      have hsame := Reservation.id_of_resolve (mapError_eq_ok_iff.1 hsettled)
      exact (hwritten rfl).2.trans (congrArg some (hsame.trans hid).symm)

end UnitOfWork

end Stockroom
