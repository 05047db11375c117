import Stockroom.Database.Connection
import Stockroom.Proofs.Database.Columns
import Stockroom.Proofs.Database.Holdings

/-!
# Tables that stay readable

A statement is carried out only if it violates no key and no check, so tables
that can be read are readable after each statement of the store that was
carried out, and a row that was written is found as its columns keep it.
-/

namespace Stockroom.Database

/-- Contents with products that can be bound, and with times as columns keep them. -/
structure Contents.Readable (contents : Contents) : Prop extends contents.Sound where
  bound : ∀ record ∈ contents.records, holdsNulText record.product.text = false
  keptRecords : ∀ record ∈ contents.records, record.inRow = record
  keptReservations : ∀ reservation ∈ contents.reservations, reservation.inRow = reservation

/-- Tables that can be read, as contents of which something is known. -/
def Tables.ReadAs (tables : Tables) (known : Contents → Prop) : Prop :=
  ∃ contents : Contents, tables = contents.tables ∧ contents.Readable ∧ known contents

theorem Tables.ReadAs.imp {tables : Tables} {known more : Contents → Prop}
    (hread : tables.ReadAs known) (himp : ∀ contents : Contents, known contents → more contents) :
    tables.ReadAs more := by
  obtain ⟨contents, htables, hreadable, hknown⟩ := hread
  exact ⟨contents, htables, hreadable, himp contents hknown⟩

/-! ## What checks make sure of -/

theorem holdsNulText_of_bound {statement : Statement} (hbound : bindingRefusal? statement = none) :
    ∀ text ∈ statement.texts, holdsNulText text = false := by
  intro text htext
  rw [bindingRefusal?] at hbound
  split at hbound
  · cases hbound
  · rename_i hnone
    have hall := List.any_eq_false.1 (Bool.eq_false_iff.2 hnone)
    exact Bool.eq_false_iff.2 (hall text htext)

namespace Tables

theorem require_eq_ok_iff {condition : Bool} {refusal : Refusal} {done : Unit} :
    require condition refusal = .ok done ↔ condition = true := by
  cases condition <;> simp [require]

theorem free_of_checkInventoryKeys {record : StockRecord} {others : List StockRecord}
    (hchecked : checkInventoryKeys (.ofRecord record) (others.map recordCells) = .ok ()) :
    (∀ other ∈ others, other.id ≠ record.id) ∧
      ∀ other ∈ others, other.product ≠ record.product := by
  simp only [checkInventoryKeys, bind_eq_ok_iff, require_eq_ok_iff, List.all_eq_true,
    List.forall_mem_map, bne_iff_ne] at hchecked
  obtain ⟨_, hids, hproducts⟩ := hchecked
  refine ⟨fun other hother hsame => ?_, fun other hother hsame => ?_⟩
  · exact hids other hother (congrArg some hsame)
  · apply hproducts other hother
    rw [recordCells_product, hsame]
    rfl

/-- A record that is written over an old one.  A restock that is not given stays what it was. -/
def writtenOver (record old : StockRecord) : StockRecord :=
  { record with lastRestock := record.lastRestock.orElse fun _ => old.lastRestock }

theorem inRow_writtenOver {old : StockRecord} (record : StockRecord) (hold : old.inRow = old) :
    (writtenOver record.inRow old).inRow = writtenOver record.inRow old := by
  obtain ⟨hrestock, _, _⟩ := StockRecord.inRow_eq_iff.1 hold
  rw [StockRecord.inRow_eq_iff]
  simp only [writtenOver, StockRecord.inRow, Instant.inColumn_inColumn, and_true]
  cases record.lastRestock with
  | none => exact hrestock
  | some time => exact congrArg some time.inColumn_inColumn

theorem setInventory_eq_ok {record old : StockRecord} {others : List StockRecord}
    {changed : InventoryCells}
    (hset : setInventory (.ofRecord record) (recordCells old) (others.map recordCells) =
      .ok changed) :
    changed = recordCells (writtenOver record old) ∧
      ∀ other ∈ others, other.product ≠ record.product := by
  have hwritten : (do
      checkInventory (.ofRecord (writtenOver record old))
      checkInventoryKeys (.ofRecord (writtenOver record old)) (others.map recordCells)
      return recordCells (writtenOver record old)) = .ok changed := hset
  simp only [bind_eq_ok_iff] at hwritten
  obtain ⟨_, _, _, hkeys, hchanged⟩ := hwritten
  cases hchanged
  exact ⟨rfl, (free_of_checkInventoryKeys hkeys).2⟩

theorem free_of_checkReservationKey {id : Uuid} {others : List Reservation}
    (hchecked : checkReservationKey id (others.map reservationCells) = .ok ()) :
    ∀ other ∈ others, other.id ≠ id := by
  simp only [checkReservationKey, require_eq_ok_iff, List.all_eq_true, List.forall_mem_map,
    bne_iff_ne] at hchecked
  exact fun other hother hsame => hchecked other hother (congrArg some hsame)

end Tables

theorem ItemRow.short_of_ofLines {reservation : Uuid} {position : Nat}
    {lines : List ReservationLine} {rows : List ItemRow} (hposition : position ≤ positionLimit)
    (hrows : ofLines reservation position lines = .ok rows) :
    position + lines.length ≤ positionLimit := by
  induction lines generalizing position rows with
  | nil => exact hposition
  | cons line rest ih =>
    rw [ofLines] at hrows
    split at hrows
    · cases hrows
    · simp only [bind_eq_ok_iff] at hrows
      obtain ⟨later, hlater, _⟩ := hrows
      have hshort := ih (by omega) hlater
      rw [List.length_cons]
      omega

/-! ## Statements that were carried out -/

namespace Contents.Readable

variable {contents : Contents} {after : Tables}

theorem empty : Contents.empty.Readable where
  products := List.nodup_nil
  recordIds := List.nodup_nil
  reservationIds := List.nodup_nil
  lines _ hmem := (List.not_mem_nil hmem).elim
  items := .refl _
  bound _ hmem := (List.not_mem_nil hmem).elim
  keptRecords _ hmem := (List.not_mem_nil hmem).elim
  keptReservations _ hmem := (List.not_mem_nil hmem).elim

theorem replaceRecord (hreadable : contents.Readable) {first rest : List StockRecord}
    {record updated : StockRecord} (hrecords : contents.records = first ++ record :: rest)
    (hid : updated.id = record.id)
    (hproducts : ∀ other ∈ first ++ rest, other.product ≠ updated.product)
    (hbound : holdsNulText updated.product.text = false) (hkept : updated.inRow = updated) :
    Readable { contents with records := first ++ updated :: rest } := by
  have hothers : ∀ other ∈ first ++ updated :: rest,
      other = updated ∨ other ∈ contents.records := by
    rw [hrecords]
    simp only [List.mem_append, List.mem_cons]
    tauto
  refine ⟨hreadable.toSound.replaceRecord hrecords hid hproducts, fun other hother => ?_,
    fun other hother => ?_, hreadable.keptReservations⟩
  · rcases hothers other hother with rfl | hold
    · exact hbound
    · exact hreadable.bound other hold
  · rcases hothers other hother with rfl | hold
    · exact hkept
    · exact hreadable.keptRecords other hold

/-- A record that was inserted is read back, and its row is the result. -/
theorem inserted (hreadable : contents.Readable) {record : StockRecord} {row : InventoryRow}
    (hbound : bindingRefusal? (.insertInventory (InventoryRow.ofRecord record).bound) = none)
    (hdone : contents.tables.execute (.insertInventory (InventoryRow.ofRecord record).bound) =
      .ok (row, after)) :
    row = .ofRecord record.inRow ∧ after.ReadAs fun later =>
      later.records.find? (·.product == record.product) = some record.inRow := by
  rw [InventoryRow.bound_eq] at hdone
  obtain ⟨hids, hproducts⟩ : (∀ other ∈ contents.records, other.id ≠ record.inRow.id) ∧
      ∀ other ∈ contents.records, other.product ≠ record.inRow.product := by
    have hinserted := hdone
    simp only [Tables.execute, Tables.insertInventory, bind_eq_ok_iff] at hinserted
    obtain ⟨_, ⟨_, _, _, hkeys, _⟩, _⟩ := hinserted
    exact Tables.free_of_checkInventoryKeys hkeys
  rw [contents.execute_insertInventory hids hproducts] at hdone
  cases hdone
  refine ⟨rfl, _, rfl, ⟨hreadable.toSound.addRecord hids hproducts, ?_, ?_,
    hreadable.keptReservations⟩, ?_⟩
  · exact List.forall_mem_append.2 ⟨hreadable.bound, List.forall_mem_singleton.2
      (holdsNulText_of_bound hbound _ (List.mem_singleton_self _))⟩
  · exact List.forall_mem_append.2
      ⟨hreadable.keptRecords, List.forall_mem_singleton.2 record.inRow_inRow⟩
  · exact (Keys.find?_add hproducts record.product).trans (if_pos rfl)

/-- Whichever record is written, its row is written over or there is none. -/
theorem updated (hreadable : contents.Readable) {record : StockRecord} {result : Unit}
    (hbound : bindingRefusal? (.updateInventory (InventoryRow.ofRecord record).bound) = none)
    (hdone : contents.tables.execute (.updateInventory (InventoryRow.ofRecord record).bound) =
      .ok (result, after)) :
    after.ReadAs fun later => later.reservations = contents.reservations := by
  rw [InventoryRow.bound_eq] at hdone
  obtain ⟨inventory, hinventory, rfl⟩ : ∃ inventory,
      Tables.changeRows (fun row : InventoryCells => row.id == some record.id)
        (Tables.setInventory (.ofRecord record.inRow)) [] (contents.records.map recordCells) =
          .ok inventory ∧ after = { contents.tables with inventory := inventory } := by
    simp only [Tables.execute, Tables.updateInventory, bind_eq_ok_iff] at hdone
    obtain ⟨_, ⟨inventory, hchanged, hset⟩, hresult⟩ := hdone
    cases hset
    cases hresult
    exact ⟨inventory, hchanged, rfl⟩
  -- The row is chosen by its id, which need not be one that was ever read.
  by_cases hknown : ∃ old ∈ contents.records, old.id = record.id
  · obtain ⟨old, hold, hid⟩ := hknown
    obtain ⟨first, rest, hrecords⟩ := List.append_of_mem hold
    have hids : ((first ++ old :: rest).map StockRecord.id).Nodup :=
      hrecords ▸ hreadable.recordIds
    rw [hrecords, ← hid, Tables.changeRows_at_key recordCells_id hids] at hinventory
    cases hset : Tables.setInventory (.ofRecord record.inRow) (recordCells old)
        ((first ++ rest).map recordCells) with
    | error refusal =>
      rw [hset] at hinventory
      cases hinventory
    | ok changed =>
      rw [hset] at hinventory
      cases hinventory
      obtain ⟨rfl, hproducts⟩ := Tables.setInventory_eq_ok hset
      let written := Tables.writtenOver record.inRow old
      have hwritten : written.id = old.id := hid.symm
      refine ⟨{ contents with records := first ++ written :: rest }, ?_,
        hreadable.replaceRecord hrecords hwritten hproducts
          (holdsNulText_of_bound hbound _ (List.mem_singleton_self _))
          (Tables.inRow_writtenOver record (hreadable.keptRecords old hold)), rfl⟩
      simp only [tables, List.map_append, List.map_cons]
      rfl
  · have hnone : ∀ row ∈ contents.records.map recordCells, (row.id == some record.id) = false := by
      refine List.forall_mem_map.2 fun other hother => beq_eq_false_iff_ne.2 fun hsame => ?_
      exact hknown ⟨other, hother, Option.some.inj hsame⟩
    rw [Tables.changeRows_of_none hnone] at hinventory
    cases hinventory
    exact ⟨contents, rfl, hreadable, rfl⟩

/-- A record that was written over the one it succeeds is read back. -/
theorem updated_found (hreadable : contents.Readable) {record updated : StockRecord}
    (hfound : contents.records.find? (·.product == updated.product) = some record)
    (hsucceeds : Succeeds updated record) {result : Unit}
    (hdone : contents.tables.execute (.updateInventory (InventoryRow.ofRecord updated).bound) =
      .ok (result, after)) :
    after.ReadAs fun later =>
      later.records.find? (·.product == updated.product) = some updated.inRow := by
  have hwritten : Succeeds updated.inRow record := {
    id := hsucceeds.id
    product := hsucceeds.product
    restock := fun hnone => hsucceeds.restock (Option.map_eq_none_iff.1 hnone) }
  have hmem := List.mem_of_find?_eq_some hfound
  obtain ⟨first, rest, hrecords⟩ := List.append_of_mem hmem
  have hbound : holdsNulText updated.inRow.product.text = false := by
    rw [hwritten.product]
    exact hreadable.bound record hmem
  have hproducts : ((first ++ record :: rest).map StockRecord.product).Nodup :=
    hrecords ▸ hreadable.products
  rw [InventoryRow.bound_eq, contents.execute_updateInventory hreadable.toSound hrecords hwritten]
    at hdone
  cases hdone
  refine ⟨_, rfl, hreadable.replaceRecord hrecords hsucceeds.id
    (hsucceeds.product ▸ Keys.ne_of_distinct hproducts) hbound updated.inRow_inRow, ?_⟩
  exact (Keys.find?_replace hproducts hwritten.product updated.product).trans
    (if_pos hsucceeds.product.symm)

theorem removed (hreadable : contents.Readable) {product : ProductId} {result : Unit}
    (hdone : contents.tables.execute (.deleteInventory product.text) = .ok (result, after)) :
    after.ReadAs fun _ => True := by
  rw [contents.execute_deleteInventory] at hdone
  cases hdone
  exact ⟨_, rfl, ⟨hreadable.toSound.removeRecord product,
    fun record hmem => hreadable.bound record (List.mem_of_mem_filter hmem),
    fun record hmem => hreadable.keptRecords record (List.mem_of_mem_filter hmem),
    hreadable.keptReservations⟩, trivial⟩

/-- A reservation that was inserted with its lines is read back. -/
theorem added (hreadable : contents.Readable) {reservation : Reservation}
    (hlines : reservation.lines ≠ [])
    (hpositive : ∀ line ∈ reservation.lines, 0 < line.quantity.value) {middle : Tables}
    {first last : Unit} {items : List ItemRow}
    (hinserted : contents.tables.execute
      (.insertReservation (ReservationRow.ofReservation reservation).bound) = .ok (first, middle))
    (hitems : ItemRow.ofReservation reservation = .ok items)
    (hdone : middle.execute (.insertItems items) = .ok (last, after)) :
    after.ReadAs fun later =>
      later.reservations.find? (·.id == reservation.id) = some reservation.inRow := by
  rw [ReservationRow.bound_eq] at hinserted
  have hfresh : ∀ other ∈ contents.reservations, other.id ≠ reservation.inRow.id := by
    have hchecked := hinserted
    simp only [Tables.execute, Tables.insertReservation, ReservationRow.ofReservation,
      bind_eq_ok_iff] at hchecked
    obtain ⟨_, ⟨_, _, _, hkey, _⟩, _⟩ := hchecked
    exact Tables.free_of_checkReservationKey hkey
  have hshort : reservation.lines.length ≤ ItemRow.positionLimit := by
    have hrows : ItemRow.ofLines reservation.id 0 reservation.lines = .ok items := hitems
    have hbound := ItemRow.short_of_ofLines (Nat.zero_le ItemRow.positionLimit) hrows
    rwa [Nat.zero_add] at hbound
  rw [Contents.execute_insertReservation hfresh] at hinserted
  cases hinserted
  rw [ItemRow.ofReservation_eq hshort] at hitems
  cases hitems
  rw [← reservation.lines_inRow] at hlines hpositive hshort
  rw [← ItemRow.rows_inRow,
    Contents.execute_insertItems hreadable.toSound hfresh hshort hpositive] at hdone
  cases hdone
  refine ⟨_, rfl, ⟨hreadable.toSound.addReservation hfresh hlines hshort,
    hreadable.bound, hreadable.keptRecords, ?_⟩, ?_⟩
  · exact List.forall_mem_append.2
      ⟨hreadable.keptReservations, List.forall_mem_singleton.2 reservation.inRow_inRow⟩
  · exact (Keys.find?_add hfresh reservation.id).trans (if_pos reservation.id_inRow)

/-- A reservation that was settled is read back. -/
theorem settled (hreadable : contents.Readable) {reservation : Reservation}
    (hfound : contents.reservations.find? (·.id == reservation.id) = some reservation)
    (status : Status) (time : Instant) {result : Unit}
    (hdone : contents.tables.execute
      (.settleReservation reservation.id status.word time.inColumn) = .ok (result, after)) :
    after.ReadAs fun later => later.reservations.find? (·.id == reservation.id) =
      some (Reservation.inRow { reservation with status := status, updatedAt := time }) := by
  obtain ⟨first, rest, hreservations⟩ := List.append_of_mem (List.mem_of_find?_eq_some hfound)
  have hids : ((first ++ reservation :: rest).map Reservation.id).Nodup :=
    hreservations ▸ hreadable.reservationIds
  rw [execute_settleReservation hreadable.toSound hreservations] at hdone
  cases hdone
  have hothers := hreadable.keptReservations
  rw [hreservations] at hothers
  obtain ⟨hfirst, hlater⟩ := List.forall_mem_append.1 hothers
  obtain ⟨hkept, hrest⟩ := List.forall_mem_cons.1 hlater
  obtain ⟨hexpires, hcreated, _⟩ := Reservation.inRow_eq_iff.1 hkept
  let settled : Reservation := { reservation with status := status, updatedAt := time.inColumn }
  have hsettled : Reservation.inRow { reservation with status := status, updatedAt := time } =
      settled := by
    simp only [Reservation.inRow, settled, hexpires, hcreated]
  refine ⟨_, rfl, ⟨hreadable.toSound.settleReservation hreservations status time.inColumn,
    hreadable.bound, hreadable.keptRecords, ?_⟩, ?_⟩
  · have hstays : settled.inRow = settled := by
      rw [← hsettled]
      exact Reservation.inRow_inRow _
    exact List.forall_mem_append.2 ⟨hfirst, List.forall_mem_cons.2 ⟨hstays, hrest⟩⟩
  · have hid : settled.id = reservation.id := rfl
    rw [hsettled]
    exact (Keys.find?_replace hids hid reservation.id).trans (if_pos hid)

theorem recorded (hreadable : contents.Readable) {row : ProcessedRow} {result : Unit}
    (hdone : contents.tables.execute (.insertProcessed row) = .ok (result, after)) :
    after.ReadAs fun _ => True := by
  simp only [Tables.execute, Tables.insertProcessed, bind_eq_ok_iff] at hdone
  obtain ⟨_, ⟨_, _, hinserted⟩, hresult⟩ := hdone
  cases hinserted
  cases hresult
  exact ⟨{ contents with processed := contents.processed ++ [.ofRow row] }, rfl,
    ⟨⟨hreadable.products, hreadable.recordIds, hreadable.reservationIds, hreadable.lines,
      hreadable.items⟩, hreadable.bound, hreadable.keptRecords, hreadable.keptReservations⟩, trivial⟩

end Contents.Readable

end Stockroom.Database
