import Stockroom.Proofs.Database.Mirroring
import Stockroom.Proofs.Store.Locking

/-!
# Units of work as transactions

A unit of work writes a record only over the one that it has locked, settles
only the reservation that it has locked, and adds only the one it was given.
So a transaction has the result that the work has in memory, and commits
tables that mirror the store in memory.
-/

namespace Stockroom.Database

/-- The rows that a unit of work has locked, as they are by now, and the reservation that it
may still add. -/
structure EditStage where
  records : ProductId → Option StockRecord
  reservation : Option Reservation
  addition : Option Reservation

namespace EditStage

def start (addition : Option Reservation) : EditStage := ⟨fun _ => none, none, addition⟩

/-- What is known of the record of a product from now on. -/
def know (stage : EditStage) (product : ProductId) (record : Option StockRecord) : EditStage :=
  { stage with records := Function.update stage.records product record }

theorem records_know (stage : EditStage) (product : ProductId) (record : Option StockRecord) :
    (stage.know product record).records = Function.update stage.records product record := rfl

def protocol : Protocol RowRequest RowRequest.Answer EditStage where
  allows stage request :=
    match request with
    | .lockProduct _ | .lockReservation _ | .removeProduct _ => True
    | .writeRecord updated => updated.IsWhole ∧
        ∃ record, stage.records updated.product = some record ∧ Succeeds updated record
    | .addReservation reservation => stage.addition = some reservation
    | .settleReservation settled => ∃ reservation status time,
        stage.reservation = some reservation ∧ time.IsWhole ∧
          settled = { reservation with status := status, updatedAt := time }
  expects _ request answer :=
    match request, answer with
    | .lockProduct product, .ok record => record.product = product ∧ record.IsWhole
    | _, _ => True
  next stage request answer :=
    match request, answer with
    | _, .error _ => stage
    | .lockProduct product, .ok record => stage.know product (some record)
    | .lockReservation _, .ok reservation => { stage with reservation := some reservation }
    | .writeRecord updated, .ok _ => stage.know updated.product (some updated)
    | .removeProduct product, .ok _ => stage.know product none
    | .addReservation _, .ok _ => { stage with addition := none }
    | .settleReservation _, .ok _ => { stage with reservation := none }

/-- What a stage says about the store in memory. -/
structure Holds (stage : EditStage) (store : MemoryStore) (ids : Set Uuid) : Prop where
  records : ∀ product record, stage.records product = some record →
    store.inventory.find? product = some record
  reservation : ∀ reservation, stage.reservation = some reservation →
    store.reservations.find? reservation.id = some reservation
  addition : ∀ reservation, stage.addition = some reservation → Addable reservation store ids

variable {stage : EditStage} {store : MemoryStore} {ids : Set Uuid}

theorem Holds.know (hstage : stage.Holds store ids) {after : MemoryStore} {product : ProductId}
    (hothers : ∀ other, other ≠ product →
      after.inventory.find? other = store.inventory.find? other)
    (hreservations : after.reservations = store.reservations) :
    (stage.know product (after.inventory.find? product)).Holds after ids where
  records sought record hknown := by
    by_cases hsame : sought = product
    · rw [records_know, hsame, Function.update_self] at hknown
      rw [hsame, hknown]
    · rw [records_know, Function.update_of_ne hsame] at hknown
      rw [hothers sought hsame]
      exact hstage.records sought record hknown
  reservation := by
    rw [hreservations]
    exact hstage.reservation
  addition reservation hadded := by
    refine { hstage.addition reservation hadded with free := ?_ }
    rw [hreservations]
    exact (hstage.addition reservation hadded).free

theorem Holds.writeRecord (hstage : stage.Holds store ids) (updated : StockRecord) :
    (stage.know updated.product (some updated)).Holds
      { store with inventory := store.inventory.insert updated.product updated } ids := by
  let after : MemoryStore :=
    { store with inventory := store.inventory.insert updated.product updated }
  have hfound : after.inventory.find? updated.product = some updated := by
    rw [SortedMap.find?_insert, if_pos rfl]
  have hothers (other : ProductId) (hother : other ≠ updated.product) :
      after.inventory.find? other = store.inventory.find? other := by
    rw [SortedMap.find?_insert, if_neg (Ne.symm hother)]
  exact hfound ▸ hstage.know hothers rfl

theorem Holds.removeProduct (hstage : stage.Holds store ids) (product : ProductId) :
    (stage.know product none).Holds
      { store with inventory := store.inventory.erase product } ids := by
  let after : MemoryStore := { store with inventory := store.inventory.erase product }
  have hfound : after.inventory.find? product = none := by
    rw [SortedMap.find?_erase, if_pos rfl]
  have hothers (other : ProductId) (hother : other ≠ product) :
      after.inventory.find? other = store.inventory.find? other := by
    rw [SortedMap.find?_erase, if_neg (Ne.symm hother)]
  exact hfound ▸ hstage.know hothers rfl

theorem Holds.addReservation (hstage : stage.Holds store ids) {reservation : Reservation}
    (hfree : store.reservations.find? reservation.id = none) :
    Holds { stage with addition := none }
      { store with reservations := store.reservations.insert reservation.id reservation } ids where
  records := hstage.records
  reservation held hknown := by
    have hheld := hstage.reservation held hknown
    have hne : reservation.id ≠ held.id := by
      intro hsame
      rw [hsame, hheld] at hfree
      cases hfree
    rw [SortedMap.find?_insert, if_neg hne]
    exact hheld
  addition _ hadded := nomatch hadded

theorem Holds.settleReservation (hstage : stage.Holds store ids) {reservation settled : Reservation}
    (hfound : store.reservations.find? settled.id = some reservation) :
    Holds { stage with reservation := none }
      { store with reservations := store.reservations.insert settled.id settled } ids where
  records := hstage.records
  reservation _ hknown := nomatch hknown
  addition added hadded := by
    have haddable := hstage.addition added hadded
    have hne : settled.id ≠ added.id := by
      intro hsame
      have hfree := haddable.free
      rw [← hsame, hfound] at hfree
      cases hfree
    refine { haddable with free := ?_ }
    rw [SortedMap.find?_insert, if_neg hne]
    exact haddable.free

end EditStage

section Work

variable {now : Instant} {begun : Option Tables} {contents : Contents} {store : MemoryStore}
  {ids : Set Uuid} {stage : EditStage} {α : Type}

/-- A request that the protocol allows is answered by statements as it is in memory. -/
theorem yields_answerRow (hmirrors : contents.Mirrors store ids) (hstage : stage.Holds store ids)
    {request : RowRequest} (hallowed : EditStage.protocol.allows stage request) :
    ∃ after : Contents,
      Yields now (answerRow request) begun contents.tables
        ((MemoryStore.answerRow request store).1, after.tables) ∧
      after.Mirrors (MemoryStore.answerRow request store).2 ids ∧
      EditStage.protocol.expects stage request (MemoryStore.answerRow request store).1 ∧
      (EditStage.protocol.next stage request (MemoryStore.answerRow request store).1).Holds
        (MemoryStore.answerRow request store).2 ids := by
  cases request with
  | lockProduct product =>
    refine ⟨contents, yields_lockProduct hmirrors product, hmirrors, ?_⟩
    cases hfound : store.inventory.find? product with
    | none =>
      simp only [MemoryStore.answerRow, hfound]
      exact ⟨trivial, hstage⟩
    | some record =>
      obtain ⟨hmem, hproduct⟩ := hmirrors.record_iff.1 hfound
      have hknown := hstage.know (fun other (_ : other ≠ product) => rfl) rfl
      rw [hfound] at hknown
      simp only [MemoryStore.answerRow, hfound]
      exact ⟨⟨hproduct, (hmirrors.wholeRecords record hmem).1⟩, hknown⟩
  | lockReservation id =>
    refine ⟨contents, yields_lockReservation hmirrors id, hmirrors, trivial, ?_⟩
    cases hfound : store.reservations.find? id with
    | none =>
      simp only [MemoryStore.answerRow, hfound]
      exact hstage
    | some reservation =>
      simp only [MemoryStore.answerRow, hfound]
      refine { hstage with reservation := fun held hheld => ?_ }
      cases hheld
      rw [(hmirrors.reservation_iff.1 hfound).2]
      exact hfound
  | writeRecord updated =>
    obtain ⟨hwhole, record, hknown, hsucceeds⟩ := hallowed
    obtain ⟨after, hyields, hafter⟩ := yields_writeRecord now begun hmirrors
      (hstage.records updated.product record hknown) hsucceeds hwhole
    exact ⟨after, hyields, hafter, trivial, hstage.writeRecord updated⟩
  | removeProduct product =>
    obtain ⟨after, hyields, hafter⟩ := yields_removeProduct now begun hmirrors product
    exact ⟨after, hyields, hafter, trivial, hstage.removeProduct product⟩
  | addReservation reservation =>
    have haddable := hstage.addition reservation hallowed
    obtain ⟨after, hyields, hafter⟩ := yields_addReservation now begun hmirrors haddable
    exact ⟨after, hyields, hafter, trivial, hstage.addReservation haddable.free⟩
  | settleReservation settled =>
    obtain ⟨reservation, status, time, hknown, htime, rfl⟩ := hallowed
    have hfound := hstage.reservation reservation hknown
    obtain ⟨after, hyields, hafter⟩ :=
      yields_settleReservation now begun hmirrors hfound status htime
    exact ⟨after, hyields, hafter, trivial, hstage.settleReservation hfound⟩

/-- What follows the protocol in memory is answered by statements as it is in memory. -/
theorem yields_interpret {program : Program RowRequest RowRequest.Answer (Except StockError α)}
    {post : Except StockError α → EditStage → Prop}
    (hfollows : program.Follows EditStage.protocol post stage)
    (hmirrors : contents.Mirrors store ids) (hstage : stage.Holds store ids) :
    ∃ after : Contents,
      Yields now (ExceptT.mk (program.interpret fun request => (answerRow request).run)) begun
        contents.tables ((program.run MemoryStore.answerRow store).1, after.tables) ∧
      after.Mirrors (program.run MemoryStore.answerRow store).2 ids := by
  induction program generalizing contents store stage with
  | done value => exact ⟨contents, fun _ hstands _ => ⟨rfl, hstands⟩, hmirrors⟩
  | ask request resume ih =>
    obtain ⟨middle, hrow, hmiddle, hexpected, hnext⟩ :=
      yields_answerRow hmirrors hstage hfollows.1
    obtain ⟨after, hrest, hafter⟩ := ih _ (hfollows.2 _ hexpected) hmiddle hnext
    exact ⟨after, hrow.interpret_ask hrest, hafter⟩

/-- A unit of work that may add one reservation, and edits only what it has locked. -/
def Edits (addition : Option Reservation) (work : UnitOfWork α) : Prop :=
  Program.Conforms EditStage.protocol (fun _ _ => True) work (.start addition)

/-- A transaction does what its work does in memory, where the work changes nothing when it
fails. -/
theorem answers_transact (now : Instant) (lockTimeout : Nat) {addition : Option Reservation}
    {work : UnitOfWork α} (hwork : Edits addition work)
    (hfailed : ∀ error, (store.perform work).1 = .error error → (store.perform work).2 = store)
    (hmirrors : contents.Mirrors store ids)
    (haddition : ∀ reservation, addition = some reservation → Addable reservation store ids) :
    ∃ after : Contents,
      Answers now (transact lockTimeout work) contents.tables
        ((store.perform work).1, after.tables) ∧
      after.Mirrors (store.perform work).2 ids := by
  have hstart : (EditStage.start addition).Holds store ids :=
    ⟨fun _ _ hknown => (nomatch hknown), fun _ hknown => (nomatch hknown), haddition⟩
  obtain ⟨after, hyields, hafter⟩ := yields_interpret hwork.run hmirrors hstart
  have hbody : Yields now (body lockTimeout work) (some contents.tables) contents.tables
      ((store.perform work).1, after.tables) :=
    Yields.bind (Yields.send ⟨fun _ => rfl, fun _ => rfl⟩ rfl) hyields
  have hanswers := Answers.transact hbody
  cases houtcome : (store.perform work).1 with
  | ok value =>
    rw [houtcome] at hanswers
    exact ⟨after, hanswers, hafter⟩
  | error error =>
    rw [houtcome] at hanswers
    rw [hfailed error houtcome]
    exact ⟨contents, hanswers, hmirrors⟩

end Work

/-! ## Edits of records -/

/-- A record that was edited at some time is still of the same product, and each of its times is
the old one or that time. -/
structure EditedAt (now : Instant) (updated record : StockRecord) : Prop where
  id : updated.id = record.id
  product : updated.product = record.product
  restock : updated.lastRestock = record.lastRestock ∨ updated.lastRestock = some now
  createdAt : updated.createdAt = record.createdAt
  updatedAt : updated.updatedAt = now

namespace EditedAt

variable {record updated : StockRecord} {now : Instant}

theorem of_adjust {adjustment : Adjustment} (hadjust : record.adjust adjustment now = .ok updated) :
    EditedAt now updated record := by
  rw [StockRecord.adjust] at hadjust
  split at hadjust
  · obtain ⟨_, _, _, rfl⟩ := StockRecord.increase_eq_ok_iff.1 hadjust
    exact ⟨rfl, rfl, .inr rfl, rfl, rfl⟩
  · obtain ⟨_, _, _, _, rfl⟩ := StockRecord.decrease_eq_ok_iff.1 hadjust
    exact ⟨rfl, rfl, .inl rfl, rfl, rfl⟩
  · cases hadjust
    exact ⟨rfl, rfl, .inl rfl, rfl, rfl⟩

theorem of_setThreshold (record : StockRecord) (threshold : Quantity) (now : Instant) :
    EditedAt now (record.setThreshold threshold now) record :=
  ⟨rfl, rfl, .inl rfl, rfl, rfl⟩

theorem of_holdEdit {line : ReservationLine}
    (hedit : WorkingCopy.holdEdit now line record = .ok updated) :
    EditedAt now updated record := by
  obtain ⟨_, _, _, _, _, _, rfl⟩ :=
    StockRecord.reserve_eq_ok_iff.1 (WorkingCopy.holdEdit_eq_ok_iff.1 hedit)
  exact ⟨rfl, rfl, .inl rfl, rfl, rfl⟩

theorem of_resolveEdit {resolution : Resolution} {line : ReservationLine}
    (hedit : WorkingCopy.resolveEdit resolution now line record = .ok updated) :
    EditedAt now updated record := by
  have hresolve := mapError_eq_ok_iff.1 hedit
  cases resolution with
  | confirm =>
    obtain ⟨_, _, _, _, rfl⟩ := StockRecord.confirm_eq_ok_iff.1 hresolve
    exact ⟨rfl, rfl, .inl rfl, rfl, rfl⟩
  | release | expire =>
    obtain ⟨_, _, _, _, _, _, rfl⟩ := StockRecord.release_eq_ok_iff.1 hresolve
    exact ⟨rfl, rfl, .inl rfl, rfl, rfl⟩

theorem succeeds (hedited : EditedAt now updated record) : Succeeds updated record where
  id := hedited.id
  product := hedited.product
  restock hnone := by
    rcases hedited.restock with hsame | hnow
    · exact hsame.symm.trans hnone
    · cases hnone.symm.trans hnow

end EditedAt

/-- A record may take the place of another, and its times are whole if they were. -/
structure Continues (updated record : StockRecord) : Prop extends Succeeds updated record where
  whole : record.IsWhole → updated.IsWhole

namespace Continues

variable {record updated : StockRecord} {now : Instant}

theorem refl (record : StockRecord) : Continues record record :=
  ⟨⟨rfl, rfl, id⟩, id⟩

theorem trans {last : StockRecord} (hlast : Continues last updated)
    (hfirst : Continues updated record) : Continues last record where
  id := hlast.id.trans hfirst.id
  product := hlast.product.trans hfirst.product
  restock hnone := hfirst.restock (hlast.restock hnone)
  whole hwhole := hlast.whole (hfirst.whole hwhole)

theorem of_editedAt (hnow : now.IsWhole) (hedited : EditedAt now updated record) :
    Continues updated record := by
  refine ⟨hedited.succeeds, fun hwhole => ⟨fun time htime => ?_, ?_, ?_⟩⟩
  · rcases hedited.restock with hsame | hrestocked
    · exact hwhole.lastRestock time (hsame.symm.trans htime)
    · cases hrestocked.symm.trans htime
      exact hnow
  · rw [hedited.createdAt]
    exact hwhole.createdAt
  · rw [hedited.updatedAt]
    exact hnow

/-- Every record of an edited copy continues the record that was copied. -/
theorem of_editLines {edit : ReservationLine → StockRecord → Except StockError StockRecord}
    (hedit : ∀ line record updated, edit line record = .ok updated → Continues updated record)
    {lines : List ReservationLine} {copy edited : WorkingCopy}
    (hedited : copy.editLines edit lines = .ok edited) {product : ProductId}
    {last : StockRecord} (hlast : edited.find? product = some last) :
    ∃ record, copy.find? product = some record ∧ Continues last record := by
  induction lines generalizing copy with
  | nil =>
    cases hedited
    exact ⟨last, hlast, refl last⟩
  | cons line rest ih =>
    simp only [WorkingCopy.editLines, bind_eq_ok_iff, WorkingCopy.lookup_eq_ok_iff] at hedited
    obtain ⟨record, hfound, updated, hupdated, hrest⟩ := hedited
    obtain ⟨found, hcopied, hcontinues⟩ := ih hrest
    rw [SortedMap.find?_insert] at hcopied
    split at hcopied
    · rename_i hsame
      cases hcopied
      exact ⟨record, hsame ▸ hfound, hcontinues.trans (hedit line record updated hupdated)⟩
    · exact ⟨found, hcopied, hcontinues⟩

end Continues

/-! ## What units of work edit -/

section Edits

open UnitOfWork
open Program (Conforms)
open Program.Conforms

variable {stage : EditStage} {now : Instant}

/-- The copies are of records as they are by now. -/
def EditStage.Knows (stage : EditStage) (copy : WorkingCopy) : Prop :=
  ∀ product record, copy.find? product = some record →
    stage.records product = some record ∧ record.product = product ∧ record.IsWhole

theorem EditStage.Knows.empty (stage : EditStage) : stage.Knows .empty := by
  intro product record hfound
  rw [SortedMap.find?_empty] at hfound
  cases hfound

theorem lockProducts_edits {copy : WorkingCopy} (hcopy : stage.Knows copy)
    (products : List ProductId) :
    Conforms EditStage.protocol
      (fun outcome last => last.reservation = stage.reservation ∧
        last.addition = stage.addition ∧ ∀ locked, outcome = .ok locked → last.Knows locked)
      (lockProducts copy products) stage := by
  induction products generalizing copy stage with
  | nil =>
    refine .pure ⟨rfl, rfl, fun locked hlocked => ?_⟩
    cases hlocked
    exact hcopy
  | cons product rest ih =>
    refine request_bind trivial (fun record hexpected => ?_) fun _ _ => ⟨rfl, rfl, nofun⟩
    change Conforms EditStage.protocol
      (fun outcome last => last.reservation = (stage.know product (some record)).reservation ∧
        last.addition = (stage.know product (some record)).addition ∧
        ∀ locked, outcome = .ok locked → last.Knows locked) _ (stage.know product (some record))
    refine ih fun sought found hfound => ?_
    rw [EditStage.records_know]
    rw [SortedMap.find?_insert] at hfound
    split at hfound
    · rename_i hsame
      cases hfound
      subst hsame
      exact ⟨Function.update_self .., hexpected⟩
    · rename_i hne
      rw [Function.update_of_ne (Ne.symm hne)]
      exact hcopy sought found hfound

theorem writeRecords_edits {records : List StockRecord}
    (hdistinct : (records.map StockRecord.product).Nodup)
    (hknown : ∀ updated ∈ records, updated.IsWhole ∧
      ∃ record, stage.records updated.product = some record ∧ Succeeds updated record) :
    Conforms EditStage.protocol
      (fun _ last => last.reservation = stage.reservation ∧ last.addition = stage.addition)
      (writeRecords records) stage := by
  induction records generalizing stage with
  | nil => exact .pure ⟨rfl, rfl⟩
  | cons updated rest ih =>
    obtain ⟨hfirst, hrest⟩ := List.nodup_cons.1 hdistinct
    obtain ⟨hupdated, hothers⟩ := List.forall_mem_cons.1 hknown
    refine request_bind hupdated (fun _ _ => ?_) fun _ _ => ⟨rfl, rfl⟩
    change Conforms EditStage.protocol
      (fun _ last => last.reservation = (stage.know updated.product (some updated)).reservation ∧
        last.addition = (stage.know updated.product (some updated)).addition) _
      (stage.know updated.product (some updated))
    refine ih hrest fun other hother => ?_
    have hne : other.product ≠ updated.product :=
      fun hsame => hfirst (hsame ▸ List.mem_map_of_mem hother)
    rw [EditStage.records_know, Function.update_of_ne hne]
    exact hothers other hother

/-- The records of an edited copy may be written. -/
theorem EditStage.Knows.write {locked edited : WorkingCopy} (hlocked : stage.Knows locked)
    {edit : ReservationLine → StockRecord → Except StockError StockRecord}
    (hedit : ∀ line record updated, edit line record = .ok updated → Continues updated record)
    {lines : List ReservationLine} (hedited : locked.editLines edit lines = .ok edited) :
    Conforms EditStage.protocol
      (fun _ last => last.reservation = stage.reservation ∧ last.addition = stage.addition)
      (writeRecords edited.values) stage := by
  have hcontinues {product : ProductId} {updated : StockRecord}
      (hfound : edited.find? product = some updated) : updated.product = product ∧
        updated.IsWhole ∧
          ∃ record, stage.records product = some record ∧ Succeeds updated record := by
    obtain ⟨record, hcopied, hupdated⟩ := Continues.of_editLines hedit hedited hfound
    obtain ⟨hknown, hproduct, hwhole⟩ := hlocked product record hcopied
    exact ⟨hupdated.product.trans hproduct, hupdated.whole hwhole, record, hknown,
      hupdated.toSucceeds⟩
  have hkeyed : WorkingCopy.Keyed edited := fun _ _ hfound => (hcontinues hfound).1
  refine writeRecords_edits hkeyed.distinct fun updated hmem => ?_
  obtain ⟨product, hfound⟩ := SortedMap.mem_values_iff.1 hmem
  obtain ⟨rfl, hupdated⟩ := hcontinues hfound
  exact hupdated

theorem change_edits {addition : Option Reservation} (product : ProductId)
    {edit : StockRecord → Except Violation StockRecord}
    (hedit : ∀ record updated, edit record = .ok updated → Continues updated record) :
    Edits addition (change product edit) := by
  refine request_bind trivial (fun record hexpected => ?_) fun _ _ => trivial
  refine attempt_bind (fun updated hupdated => ?_) fun _ _ => trivial
  have hcontinues := hedit record updated (mapError_eq_ok_iff.1 hupdated)
  have hproduct : updated.product = product := hcontinues.product.trans hexpected.1
  refine request_bind ⟨hcontinues.whole hexpected.2, record, ?_, hcontinues.toSucceeds⟩
    (fun _ _ => .pure trivial) fun _ _ => trivial
  rw [hproduct]
  exact Function.update_self ..

theorem delete_edits {addition : Option Reservation} (product : ProductId) :
    Edits addition (delete product) := by
  refine request_bind trivial (fun record _ => ?_) fun _ _ => trivial
  dsimp only
  split
  · exact .throw trivial
  · exact ⟨trivial, fun _ _ => trivial⟩

theorem reserve_edits {reservation : Reservation} (hwhole : reservation.createdAt.IsWhole) :
    Edits (some reservation) (reserve reservation) := by
  refine (lockProducts_edits (EditStage.Knows.empty _) _).bind
    (fun locked last hlocked => ?_) fun _ _ _ => trivial
  refine attempt_bind (fun held hheld => ?_) fun _ _ => trivial
  rw [WorkingCopy.hold, WorkingCopy.holdLines_eq] at hheld
  have hcontinues (line : ReservationLine) (record updated : StockRecord)
      (hedit : WorkingCopy.holdEdit reservation.createdAt line record = .ok updated) :
      Continues updated record := .of_editedAt hwhole (.of_holdEdit hedit)
  refine ((hlocked.2.2 locked rfl).write hcontinues hheld).bind
    (fun _ last hwritten => ?_) fun _ _ _ => trivial
  exact request_bind (hwritten.2.trans hlocked.2.1) (fun _ _ => .pure trivial) fun _ _ => trivial

theorem resolve_edits {addition : Option Reservation} (id : Uuid) (resolution : Resolution)
    (hnow : now.IsWhole) : Edits addition (resolve id resolution now) := by
  refine request_bind trivial (fun reservation _ => ?_) fun _ _ => trivial
  dsimp only
  split
  · exact attempt_bind (fun _ _ => .pure trivial) fun _ _ => trivial
  · rename_i hlive
    have hpending : reservation.isPending = true := by
      simpa [Reservation.isTerminal_eq] using hlive
    refine (lockProducts_edits (EditStage.Knows.empty _) _).bind
      (fun locked last hlocked => ?_) fun _ _ _ => trivial
    refine attempt_bind (fun settled hsettled => ?_) fun _ _ => trivial
    have hresolve := mapError_eq_ok_iff.1 hsettled
    rw [Reservation.resolve_pending hpending] at hresolve
    split at hresolve
    · cases hresolve
      refine attempt_bind (fun edited hedited => ?_) fun _ _ => trivial
      rw [WorkingCopy.resolveLines_eq] at hedited
      have hcontinues (line : ReservationLine) (record updated : StockRecord)
          (hedit : WorkingCopy.resolveEdit resolution now line record = .ok updated) :
          Continues updated record := .of_editedAt hnow (.of_resolveEdit hedit)
      refine ((hlocked.2.2 locked rfl).write hcontinues hedited).bind
        (fun _ last hwritten => ?_) fun _ _ _ => trivial
      refine request_bind ⟨reservation, _, now, hwritten.1.trans hlocked.1, hnow, rfl⟩
        (fun _ _ => .pure trivial) fun _ _ => trivial
    · cases hresolve

end Edits

end Stockroom.Database
