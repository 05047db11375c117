import Stockroom.Proofs.Concurrency.Process
import Stockroom.Proofs.Store.Locking

/-!
# One segment of a process

A segment either ends at a lock that has to be waited for, and then it has
changed nothing, or it ends the call, and then the rows have become what the
store in memory becomes.
-/

namespace Stockroom

namespace SharedRows

/-- The rows show what a store holds. -/
structure Shows (rows : SharedRows) (store : MemoryStore) : Prop where
  inventory : ∀ product, rows.inventory.find? product = store.inventory.find? product
  reservations : ∀ id, rows.reservations.find? id = store.reservations.find? id

structure Sound (rows : SharedRows) : Prop where
  inventory : rows.inventory.Sound
  reservations : rows.reservations.Sound

/-- A process with certain locks has changed nothing but their rows, and a product that has lost
its row has left it empty. -/
structure Advanced (guards : Guards) (before after : SharedRows) : Prop where
  inventory : Rows.Keeps {row | row ∈ guards.records.values} before.inventory after.inventory
  reservations : Rows.Keeps {row | guards.reservation = some row} before.reservations
    after.reservations
  removed : ∀ product row, before.inventory.handles.find? product = some row →
    after.inventory.handles.find? product = some row ∨
      after.inventory.contents row = none ∧ after.inventory.handles.find? product = none
  kept : ∀ id row, before.reservations.handles.find? id = some row →
    after.reservations.handles.find? id = some row

theorem Advanced.refl (guards : Guards) (rows : SharedRows) : Advanced guards rows rows where
  inventory := .refl _ _
  reservations := .refl _ _
  removed _ _ := .inl
  kept _ _ := id

theorem Advanced.create {guards : Guards} {rows : SharedRows} {record : StockRecord}
    (habsent : rows.inventory.handles.find? record.product = none) :
    Advanced guards rows { rows with inventory := rows.inventory.add record.product record } where
  inventory := .add _ habsent record
  reservations := .refl _ _
  removed product row hhandle := by
    have hne : record.product ≠ product := by
      rintro rfl
      rw [habsent] at hhandle
      cases hhandle
    rw [Rows.add, SortedMap.find?_insert, if_neg hne]
    exact .inl hhandle
  kept _ _ := id

/-- A write leaves every product its row. -/
theorem Advanced.trans_write {guards : Guards} {before between after : SharedRows}
    (hwrite : Advanced guards before between)
    (hhandles : between.inventory.handles = before.inventory.handles)
    (hrest : Advanced guards between after) : Advanced guards before after where
  inventory := hwrite.inventory.trans hrest.inventory
  reservations := hwrite.reservations.trans hrest.reservations
  removed product row hhandle := hrest.removed product row (hhandles ▸ hhandle)
  kept id row hhandle := hrest.kept id row (hwrite.kept id row hhandle)

section Writes

variable {rows : SharedRows} {store : MemoryStore} {guards : Guards}

theorem writeRecord_eq {record : StockRecord} {row : Nat}
    (hguard : guards.records.find? record.product = some row) :
    rows.writeRecord guards record =
      { rows with inventory := rows.inventory.write row record } := by
  rw [writeRecord, hguard]

theorem removeProduct_eq {product : ProductId} {row : Nat}
    (hguard : guards.records.find? product = some row) :
    rows.removeProduct guards product =
      { rows with inventory := (rows.inventory.clear row).drop product } := by
  rw [removeProduct, hguard]

theorem settleReservation_eq {reservation : Reservation} {row : Nat}
    (hguard : guards.reservation = some row) :
    rows.settleReservation guards reservation =
      { rows with reservations := rows.reservations.write row reservation } := by
  rw [settleReservation, hguard]

theorem Advanced.writeRecord {record : StockRecord} {row : Nat}
    (hguard : guards.records.find? record.product = some row) :
    Advanced guards rows { rows with inventory := rows.inventory.write row record } where
  inventory := .write (SortedMap.mem_values_iff.2 ⟨_, hguard⟩) record
  reservations := .refl _ _
  removed _ _ := .inl
  kept _ _ := id

theorem Advanced.removeProduct {product : ProductId} {row : Nat}
    (hguard : guards.records.find? product = some row)
    (hhandle : rows.inventory.handles.find? product = some row) :
    Advanced guards rows
      { rows with inventory := (rows.inventory.clear row).drop product } where
  inventory := .remove hhandle (SortedMap.mem_values_iff.2 ⟨_, hguard⟩)
  reservations := .refl _ _
  removed other found hfound := by
    simp only [Rows.drop, Rows.clear, SortedMap.find?_erase]
    split
    · rename_i hsame
      rw [← hsame, hhandle] at hfound
      cases hfound
      exact .inr ⟨Function.update_self .., rfl⟩
    · exact .inl hfound
  kept _ _ := id

theorem Advanced.addReservation {reservation : Reservation}
    (habsent : rows.reservations.handles.find? reservation.id = none) :
    Advanced guards rows (rows.addReservation reservation) where
  inventory := .refl _ _
  reservations := .add _ habsent reservation
  removed _ _ := .inl
  kept id row hhandle := by
    have hne : reservation.id ≠ id := by
      rintro rfl
      rw [habsent] at hhandle
      cases hhandle
    rw [SharedRows.addReservation, Rows.add, SortedMap.find?_insert, if_neg hne, hhandle]

theorem Advanced.settleReservation {reservation : Reservation} {row : Nat}
    (hguard : guards.reservation = some row) :
    Advanced guards rows
      { rows with reservations := rows.reservations.write row reservation } where
  inventory := .refl _ _
  reservations := .write hguard reservation
  removed _ _ := .inl
  kept _ _ := id

theorem Shows.writeRecord (hshows : rows.Shows store) (hsound : rows.inventory.Sound)
    {record : StockRecord} {row : Nat}
    (hhandle : rows.inventory.handles.find? record.product = some row) :
    Shows { rows with inventory := rows.inventory.write row record }
      { store with inventory := store.inventory.insert record.product record } where
  inventory product := by
    rw [hsound.find?_write hhandle, SortedMap.find?_insert, hshows.inventory]
  reservations := hshows.reservations

theorem Shows.removeProduct (hshows : rows.Shows store) (hsound : rows.inventory.Sound)
    {product : ProductId} {row : Nat}
    (hhandle : rows.inventory.handles.find? product = some row) :
    Shows { rows with inventory := (rows.inventory.clear row).drop product }
      { store with inventory := store.inventory.erase product } where
  inventory other := by
    rw [hsound.find?_remove hhandle, SortedMap.find?_erase, hshows.inventory]
  reservations := hshows.reservations

theorem Shows.addReservation (hshows : rows.Shows store) (hsound : rows.reservations.Sound)
    (reservation : Reservation) :
    Shows (rows.addReservation reservation)
      { store with reservations := store.reservations.insert reservation.id reservation } where
  inventory := hshows.inventory
  reservations id := by
    rw [SharedRows.addReservation, hsound.find?_add, SortedMap.find?_insert, hshows.reservations]

theorem Shows.settleReservation (hshows : rows.Shows store) (hsound : rows.reservations.Sound)
    {reservation : Reservation} {row : Nat}
    (hhandle : rows.reservations.handles.find? reservation.id = some row) :
    Shows { rows with reservations := rows.reservations.write row reservation }
      { store with reservations := store.reservations.insert reservation.id reservation } where
  inventory := hshows.inventory
  reservations id := by
    rw [hsound.find?_write hhandle, SortedMap.find?_insert, hshows.reservations]

end Writes

theorem shows_ofStore (store : MemoryStore) : (ofStore store).Shows store :=
  ⟨Rows.find?_ofMap store.inventory, Rows.find?_ofMap store.reservations⟩

theorem sound_ofStore (store : MemoryStore) : (ofStore store).Sound :=
  ⟨Rows.sound_ofMap store.inventory, Rows.sound_ofMap store.reservations⟩

end SharedRows

/-- The locks of a process are those that it has come to, and they lock present rows. -/
structure Guards.Cover (guards : Guards) (rows : SharedRows) (stage : LockStage) : Prop where
  present : ∀ product row, guards.records.find? product = some row →
    rows.inventory.handles.find? product = some row
  locked : ∀ product ∈ stage.products, ∃ row, guards.records.find? product = some row
  reservation : ∀ id, stage.reservation = some id →
    ∃ row, guards.reservation = some row ∧ rows.reservations.handles.find? id = some row

namespace Phase

open SharedRows

variable {α : Type} {guards : Guards} {rows : SharedRows} {store : MemoryStore}
  {added : Set Uuid} {stage : LockStage}

/-- How a segment of a program ends from given rows. -/
inductive Ends (guards : Guards) (rows : SharedRows) (store : MemoryStore) :
    RowProgram α → Phase α × SharedRows → Prop
  | done {program : RowProgram α} {answer : α} {last : MemoryStore} {after : SharedRows}
      (hrun : program.run MemoryStore.answerRow store = (answer, last))
      (hshows : after.Shows last) (hsound : after.Sound) (hadvanced : rows.Advanced guards after) :
      Ends guards rows store program (.returned answer, after)
  | waitsRecord {product : ProductId} {row : Nat}
      {resume : Except StockError StockRecord → RowProgram α}
      (hhandle : rows.inventory.handles.find? product = some row) :
      Ends guards rows store (.ask (.lockProduct product) resume)
        (.awaitsRecord guards product row resume, rows)
  | waitsReservation {id : Uuid} {row : Nat}
      {resume : Except StockError Reservation → RowProgram α}
      (hhandle : rows.reservations.handles.find? id = some row) :
      Ends guards rows store (.ask (.lockReservation id) resume)
        (.awaitsReservation guards id row resume, rows)

/-- A program that has begun to write waits for no more locks. -/
theorem Ends.of_write {record : StockRecord} {row : Nat}
    {resume : Except StockError Unit → RowProgram α} {post : α → LockStage → Prop}
    {result : Phase α × SharedRows} (hmode : stage.mode = .writing)
    (hrest : (resume (.ok ())).Follows (LockStage.protocol added) post stage)
    (hguard : guards.records.find? record.product = some row)
    (hends : Ends guards { rows with inventory := rows.inventory.write row record }
      { store with inventory := store.inventory.insert record.product record }
      (resume (.ok ())) result) :
    Ends guards rows store (.ask (.writeRecord record) resume) result := by
  generalize hprogram : resume (.ok ()) = program at hrest hends
  cases hends with
  | done hrun hshows hsound hadvanced =>
    refine .done ?_ hshows hsound ((Advanced.writeRecord hguard).trans_write rfl hadvanced)
    rw [Program.run_ask, MemoryStore.answerRow, hprogram, hrun]
  | waitsRecord hhandle => exact absurd (hmode.symm.trans hrest.1.1) LockMode.noConfusion
  | waitsReservation hhandle => exact absurd (hmode.symm.trans hrest.1.1) LockMode.noConfusion

/-- A segment of a program that keeps to the protocol of locks ends in one of these ways. -/
theorem advance_ends {program : RowProgram α} {post : α → LockStage → Prop}
    (hfollows : program.Follows (LockStage.protocol added) post stage)
    (hsound : rows.Sound) (hshows : rows.Shows store)
    (hcover : stage.mode ≠ .over → guards.Cover rows stage)
    (hfresh : ∀ id ∈ added, store.reservations.find? id = none) :
    Ends guards rows store program (advance guards program rows) := by
  induction program generalizing rows store stage with
  | done answer => exact .done rfl hshows hsound (.refl guards rows)
  | ask request resume ih =>
    cases request with
    | lockProduct product =>
      rw [advance]
      cases hhandle : rows.inventory.handles.find? product with
      | some row => exact .waitsRecord hhandle
      | none =>
        obtain ⟨answer, hdone⟩ := LockStage.eq_done_of_over
          (hfollows.2 (.error (.productMissing product)) trivial) rfl
        have hmissing : store.inventory.find? product = none := by
          rw [← hshows.inventory, Rows.find?_of_no_handle hhandle]
        dsimp only
        rw [hdone]
        refine .done ?_ hshows hsound (.refl guards rows)
        rw [Program.run_ask, MemoryStore.answerRow, hmissing, hdone, Program.run_done]
    | lockReservation id =>
      rw [advance]
      cases hhandle : rows.reservations.handles.find? id with
      | some row => exact .waitsReservation hhandle
      | none =>
        obtain ⟨answer, hdone⟩ := LockStage.eq_done_of_over
          (hfollows.2 (.error (.reservationMissing id)) trivial) rfl
        have hmissing : store.reservations.find? id = none := by
          rw [← hshows.reservations, Rows.find?_of_no_handle hhandle]
        dsimp only
        rw [hdone]
        refine .done ?_ hshows hsound (.refl guards rows)
        rw [Program.run_ask, MemoryStore.answerRow, hmissing, hdone, Program.run_done]
    | writeRecord record =>
      obtain ⟨⟨hmode, hmem⟩, hrest⟩ := hfollows
      obtain ⟨row, hguard⟩ := (hcover hmode).locked _ hmem
      have hhandle := (hcover hmode).present _ row hguard
      have hsound' : Sound { rows with inventory := rows.inventory.write row record } :=
        ⟨hsound.inventory.write row record, hsound.reservations⟩
      have hcover' :
          guards.Cover { rows with inventory := rows.inventory.write row record } stage :=
        ⟨(hcover hmode).present, (hcover hmode).locked, (hcover hmode).reservation⟩
      have hwritten := ih (.ok ()) (hrest (.ok ()) trivial) hsound'
        (hshows.writeRecord hsound.inventory hhandle)
        (fun _ => ⟨hcover'.present, hcover'.locked, hcover'.reservation⟩) hfresh
      rw [advance, writeRecord_eq hguard]
      exact hwritten.of_write rfl (hrest (.ok ()) trivial) hguard
    | removeProduct product =>
      obtain ⟨⟨hmode, hmem⟩, hrest⟩ := hfollows
      obtain ⟨row, hguard⟩ := (hcover hmode).locked _ hmem
      have hhandle := (hcover hmode).present _ row hguard
      obtain ⟨answer, hdone⟩ := LockStage.eq_done_of_over (hrest (.ok ()) trivial) rfl
      rw [advance, removeProduct_eq hguard, hdone]
      refine .done ?_ (hshows.removeProduct hsound.inventory hhandle)
        ⟨hsound.inventory.remove hhandle, hsound.reservations⟩ (.removeProduct hguard hhandle)
      rw [Program.run_ask, MemoryStore.answerRow, hdone, Program.run_done]
    | addReservation reservation =>
      obtain ⟨⟨_, hmem⟩, hrest⟩ := hfollows
      have habsent : rows.reservations.handles.find? reservation.id = none := by
        rw [hsound.reservations.handle_eq_none_iff, hshows.reservations, hfresh _ hmem]
      obtain ⟨answer, hdone⟩ := LockStage.eq_done_of_over (hrest (.ok ()) trivial) rfl
      rw [advance, hdone]
      refine .done ?_ (hshows.addReservation hsound.reservations reservation)
        ⟨hsound.inventory, hsound.reservations.add _ _⟩ (.addReservation habsent)
      rw [Program.run_ask, MemoryStore.answerRow, hdone, Program.run_done]
    | settleReservation reservation =>
      obtain ⟨⟨hmode, hid⟩, hrest⟩ := hfollows
      obtain ⟨row, hguard, hhandle⟩ := (hcover hmode).reservation _ hid
      obtain ⟨answer, hdone⟩ := LockStage.eq_done_of_over (hrest (.ok ()) trivial) rfl
      rw [advance, settleReservation_eq hguard, hdone]
      refine .done ?_ (hshows.settleReservation hsound.reservations hhandle)
        ⟨hsound.inventory, hsound.reservations.write _ _⟩ (.settleReservation hguard)
      rw [Program.run_ask, MemoryStore.answerRow, hdone, Program.run_done]

end Phase

end Stockroom
