import Stockroom.Database.Tables
import Stockroom.Proofs.Keys
import Stockroom.Proofs.Database.Rows
import Stockroom.Proofs.Store.WorkingCopy

/-!
# Tables that can be read

Tables in which every row stands for a domain value, and what statements do to
them in terms of these values.
-/

namespace Stockroom.Database

/-- The domain values of tables, each table in the order of its rows. -/
structure Contents where
  records : List StockRecord
  reservations : List Reservation
  items : List ItemRow
  processed : List ProcessedCells

def recordCells (record : StockRecord) : InventoryCells :=
  .ofRow (.ofRecord record)

def reservationCells (reservation : Reservation) : ReservationCells :=
  .ofRow (.ofReservation reservation)

/-- An update of a record that a row can be given.  A restock that is not given would stay. -/
structure Succeeds (updated record : StockRecord) : Prop where
  id : updated.id = record.id
  product : updated.product = record.product
  restock : updated.lastRestock = none → record.lastRestock = none

namespace Contents

def empty : Contents := ⟨[], [], [], []⟩

/-- The tables that hold such values. -/
def tables (contents : Contents) : Tables where
  inventory := contents.records.map recordCells
  reservations := contents.reservations.map reservationCells
  items := contents.items.map .ofRow
  processed := contents.processed

/-- Keys are unique, and every reservation has its lines, whose rows are all the items. -/
structure Sound (contents : Contents) : Prop where
  products : (contents.records.map StockRecord.product).Nodup
  recordIds : (contents.records.map StockRecord.id).Nodup
  reservationIds : (contents.reservations.map Reservation.id).Nodup
  lines : ∀ reservation ∈ contents.reservations, reservation.lines ≠ [] ∧
    reservation.lines.length ≤ ItemRow.positionLimit
  items : contents.items.Perm (contents.reservations.flatMap ItemRow.rows)

end Contents

theorem recordCells_id (record : StockRecord) : (recordCells record).id = some record.id := rfl

theorem recordCells_product (record : StockRecord) :
    (recordCells record).product = some record.product.text := rfl

theorem reservationCells_id (reservation : Reservation) :
    (reservationCells reservation).id = some reservation.id := rfl

theorem product_recordCells (record : StockRecord) (product : ProductId) :
    ((recordCells record).product == some product.text) = (record.product == product) := by
  rw [Bool.eq_iff_iff, beq_iff_eq, beq_iff_eq]
  constructor
  · intro hsame
    exact ProductId.ext (Option.some.inj hsame)
  · rintro rfl
    rfl

namespace Tables

/-! ## Changing rows -/

section ChangeRows

variable {Row : Type} {chosen : Row → Bool} {change : Row → List Row → Except Refusal Row}

theorem changeRows_of_none {before rows : List Row} (hnone : ∀ row ∈ rows, chosen row = false) :
    changeRows chosen change before rows = .ok (before ++ rows) := by
  induction rows generalizing before with
  | nil => rw [changeRows, List.append_nil]
  | cons row rest ih =>
    obtain ⟨hfirst, hrest⟩ := List.forall_mem_cons.1 hnone
    rw [changeRows, hfirst]
    change changeRows chosen change (before ++ [row]) rest = _
    rw [ih hrest, List.append_assoc]
    rfl

/-- A change of one row sees all other rows as they are. -/
theorem changeRows_of_one {before first rest : List Row} {row : Row}
    (hfirst : ∀ other ∈ first, chosen other = false) (hchosen : chosen row = true)
    (hrest : ∀ other ∈ rest, chosen other = false) :
    changeRows chosen change before (first ++ row :: rest) =
      (change row (before ++ first ++ rest)).map (before ++ first ++ · :: rest) := by
  induction first generalizing before with
  | nil =>
    rw [List.nil_append, List.append_nil, changeRows, hchosen]
    change (do
      let changed ← change row (before ++ rest)
      changeRows chosen change (before ++ [changed]) rest) = _
    cases change row (before ++ rest) with
    | error refusal => rfl
    | ok changed =>
      change changeRows chosen change (before ++ [changed]) rest = .ok (before ++ changed :: rest)
      rw [changeRows_of_none hrest, List.append_assoc, List.singleton_append]
  | cons other first ih =>
    obtain ⟨hother, hfirst⟩ := List.forall_mem_cons.1 hfirst
    rw [List.cons_append, changeRows, hother]
    change changeRows chosen change (before ++ [other]) (first ++ row :: rest) = _
    rw [ih hfirst, List.append_assoc before [other] first, List.singleton_append]

end ChangeRows

/-- Rows of values in another order are the rows of these values in another order. -/
theorem exists_map_eq_of_perm {Value Row : Type} {cells : Value → Row} {rows : List Row}
    {values : List Value} (hrows : rows.Perm (values.map cells)) :
    ∃ moved : List Value, rows = moved.map cells ∧ moved.Perm values := by
  change Relation.Comp (· = List.map cells ·) List.Perm rows values
  rw [List.eq_map_comp_perm]
  exact hrows

/-! ## Rows and keys -/

section Keys

variable {Value Row Key : Type} [DecidableEq Key] {cells : Value → Row}
  {column : Row → Option Key} {key : Value → Key}

/-- A key that no value has stands in no row. -/
theorem all_ne_of_fresh (hcolumn : ∀ value, column (cells value) = some (key value))
    {values : List Value} {sought : Key} (hfresh : ∀ other ∈ values, key other ≠ sought) :
    (values.map cells).all (column · != some sought) = true := by
  rw [List.all_eq_true]
  intro row hrow
  obtain ⟨other, hother, rfl⟩ := List.mem_map.1 hrow
  rw [bne_iff_ne, hcolumn]
  exact fun hsame => hfresh other hother (Option.some.inj hsame)

/-- A change at the key of one value changes its row and leaves all others as they are. -/
theorem changeRows_at_key (hcolumn : ∀ value, column (cells value) = some (key value))
    {first rest : List Value} {value : Value}
    (hdistinct : ((first ++ value :: rest).map key).Nodup)
    (change : Row → List Row → Except Refusal Row) :
    changeRows (column · == some (key value)) change [] ((first ++ value :: rest).map cells) =
      (change (cells value) ((first ++ rest).map cells)).map
        (first.map cells ++ · :: rest.map cells) := by
  have hchosen : (column (cells value) == some (key value)) = true :=
    beq_iff_eq.2 (hcolumn value)
  have hunchosen (others : List Value) (hothers : others ⊆ first ++ rest) :
      ∀ row ∈ others.map cells, (column row == some (key value)) = false := by
    intro row hrow
    obtain ⟨other, hother, rfl⟩ := List.mem_map.1 hrow
    rw [hcolumn, beq_eq_false_iff_ne]
    exact fun hsame =>
      Keys.ne_of_distinct hdistinct other (hothers hother) (Option.some.inj hsame)
  rw [List.map_append, List.map_append, List.map_cons]
  exact changeRows_of_one (hunchosen first (List.subset_append_left _ _)) hchosen
    (hunchosen rest (List.subset_append_right _ _))

end Keys

end Tables

/-! ## Statements on the inventory -/

namespace Tables

theorem checkInventory_ofRecord (record : StockRecord) :
    checkInventory (.ofRecord record) = .ok () := by
  have hnonneg (quantity : Quantity) : (0 : Int32) ≤ ofQuantity quantity := by
    rw [Int32.le_iff_toInt_le, toInt_ofQuantity]
    exact Int.natCast_nonneg _
  simp only [checkInventory, InventoryRow.ofRecord, require, hnonneg, decide_true]
  rfl

/-- A record whose id and product no other record has breaks no key. -/
theorem checkInventoryKeys_ofRecord {record : StockRecord} {others : List StockRecord}
    (hids : ∀ other ∈ others, other.id ≠ record.id)
    (hproducts : ∀ other ∈ others, other.product ≠ record.product) :
    checkInventoryKeys (.ofRecord record) (others.map recordCells) = .ok () := by
  have hfreeId : (others.map recordCells).all (·.id != some record.id) = true :=
    all_ne_of_fresh recordCells_id hids
  have hfreeProduct :
      (others.map recordCells).all (·.product != some record.product.text) = true :=
    all_ne_of_fresh recordCells_product fun other hother hsame =>
      hproducts other hother (ProductId.ext hsame)
  simp only [checkInventoryKeys, InventoryRow.ofRecord, require, hfreeId, hfreeProduct]
  rfl

theorem checkInventoryKeys_taken {record other : StockRecord} {others : List StockRecord}
    (hids : ∀ other ∈ others, other.id ≠ record.id) (hother : other ∈ others)
    (htaken : other.product = record.product) :
    checkInventoryKeys (.ofRecord record) (others.map recordCells) =
      .error (.duplicateKey "inventory_product_id_key") := by
  have hfreeId : (others.map recordCells).all (·.id != some record.id) = true :=
    all_ne_of_fresh recordCells_id hids
  have hfreeProduct :
      (others.map recordCells).all (·.product != some record.product.text) = false := by
    rw [List.all_eq_false]
    refine ⟨recordCells other, List.mem_map_of_mem hother, ?_⟩
    simp [recordCells, InventoryCells.ofRow, InventoryRow.ofRecord, htaken]
  simp only [checkInventoryKeys, InventoryRow.ofRecord, require, hfreeId, hfreeProduct]
  rfl

end Tables

namespace Contents

variable (contents : Contents)

theorem find?_inventory (product : ProductId) :
    contents.tables.inventory.find? (·.product == some product.text) =
      (contents.records.find? (·.product == product)).map recordCells := by
  rw [tables, List.find?_map]
  congr 2
  funext record
  exact product_recordCells record product

theorem execute_findInventory (product : ProductId) :
    contents.tables.execute (.findInventory product.text) =
      .ok ((contents.records.find? (·.product == product)).map recordCells, contents.tables) := by
  rw [← find?_inventory]
  rfl

theorem execute_lockInventory (product : ProductId) :
    contents.tables.execute (.lockInventory product.text) =
      .ok ((contents.records.find? (·.product == product)).map recordCells, contents.tables) :=
  contents.execute_findInventory product

theorem execute_inventoryAmong (products : List ProductId) :
    contents.tables.execute (.inventoryAmong (products.map ProductId.text)) =
      .ok ((contents.records.filter (fun record => decide (record.product ∈ products))).map
        recordCells, contents.tables) := by
  have hrows : contents.tables.inventory.filter (fun row =>
      row.product.any (products.map ProductId.text).contains) =
        (contents.records.filter (fun record => decide (record.product ∈ products))).map
          recordCells := by
    rw [tables, List.filter_map]
    congr 2
    funext record
    rw [Bool.eq_iff_iff, decide_eq_true_iff]
    change (products.map ProductId.text).contains record.product.text = true ↔ _
    rw [List.contains_iff_mem, List.mem_map]
    constructor
    · rintro ⟨product, hmem, htext⟩
      rwa [← ProductId.ext htext]
    · intro hmem
      exact ⟨record.product, hmem, rfl⟩
  rw [← hrows]
  rfl

/-- A record of a new product gets a row. -/
theorem execute_insertInventory {record : StockRecord}
    (hids : ∀ other ∈ contents.records, other.id ≠ record.id)
    (hproducts : ∀ other ∈ contents.records, other.product ≠ record.product) :
    contents.tables.execute (.insertInventory (.ofRecord record)) =
      .ok (.ofRecord record,
        tables { contents with records := contents.records ++ [record] }) := by
  have hkeys := Tables.checkInventoryKeys_ofRecord hids hproducts
  have hinserted : contents.tables.insertInventory (.ofRecord record) =
      .ok (tables { contents with records := contents.records ++ [record] }) := by
    simp only [Tables.insertInventory, Tables.checkInventory_ofRecord, tables, hkeys,
      List.map_append, ok_bind]
    rfl
  simp only [Tables.execute, hinserted]
  rfl

theorem execute_insertInventory_taken {record other : StockRecord}
    (hids : ∀ other ∈ contents.records, other.id ≠ record.id) (hother : other ∈ contents.records)
    (htaken : other.product = record.product) :
    contents.tables.execute (.insertInventory (.ofRecord record)) =
      .error (.duplicateKey "inventory_product_id_key") := by
  have hkeys := Tables.checkInventoryKeys_taken hids hother htaken
  have hrefused : contents.tables.insertInventory (.ofRecord record) =
      .error (.duplicateKey "inventory_product_id_key") := by
    simp only [Tables.insertInventory, Tables.checkInventory_ofRecord, tables, hkeys, ok_bind]
    rfl
  simp only [Tables.execute, hrefused]
  rfl

theorem setInventory_ofRecord {record updated : StockRecord} {others : List StockRecord}
    (hids : ∀ other ∈ others, other.id ≠ updated.id)
    (hproducts : ∀ other ∈ others, other.product ≠ updated.product)
    (hsucceeds : Succeeds updated record) :
    Tables.setInventory (.ofRecord updated) (recordCells record) (others.map recordCells) =
      .ok (recordCells updated) := by
  have hkeys := Tables.checkInventoryKeys_ofRecord hids hproducts
  have hcheck := Tables.checkInventory_ofRecord updated
  have hrestock : updated.lastRestock.orElse (fun _ => record.lastRestock) =
      updated.lastRestock := by
    cases hnone : updated.lastRestock with
    | none => exact hsucceeds.restock hnone
    | some time => rfl
  have hrow : { InventoryRow.ofRecord updated with
      lastRestock := (InventoryRow.ofRecord updated).lastRestock.orElse
        (fun _ => (recordCells record).lastRestock) } = InventoryRow.ofRecord updated := by
    change { InventoryRow.ofRecord updated with
      lastRestock := updated.lastRestock.orElse (fun _ => record.lastRestock) } = _
    rw [hrestock]
    rfl
  simp only [Tables.setInventory, hrow, hcheck, hkeys, ok_bind]
  rfl

theorem execute_updateInventory (hsound : contents.Sound) {first rest : List StockRecord}
    {record updated : StockRecord} (hrecords : contents.records = first ++ record :: rest)
    (hsucceeds : Succeeds updated record) :
    contents.tables.execute (.updateInventory (.ofRecord updated)) =
      .ok ((), tables { contents with records := first ++ updated :: rest }) := by
  have hids : ((first ++ record :: rest).map StockRecord.id).Nodup := hrecords ▸ hsound.recordIds
  have hproducts : ((first ++ record :: rest).map StockRecord.product).Nodup :=
    hrecords ▸ hsound.products
  have hset := setInventory_ofRecord (hsucceeds.id ▸ Keys.ne_of_distinct hids)
    (hsucceeds.product ▸ Keys.ne_of_distinct hproducts) hsucceeds
  have hupdated : contents.tables.updateInventory (.ofRecord updated) =
      .ok (tables { contents with records := first ++ updated :: rest }) := by
    change (do
      let inventory ← Tables.changeRows (fun row : InventoryCells => row.id == some updated.id)
        (Tables.setInventory (.ofRecord updated)) [] (contents.records.map recordCells)
      return { contents.tables with inventory := inventory }) = _
    rw [hrecords, hsucceeds.id, Tables.changeRows_at_key recordCells_id hids, hset]
    simp only [tables, List.map_append, List.map_cons]
    rfl
  simp only [Tables.execute, hupdated]
  rfl

theorem execute_deleteInventory (product : ProductId) :
    contents.tables.execute (.deleteInventory product.text) =
      .ok ((), tables { contents with
        records := contents.records.filter (·.product != product) }) := by
  have hrows : contents.tables.inventory.filter (·.product != some product.text) =
      (contents.records.filter (·.product != product)).map recordCells := by
    rw [tables, List.filter_map]
    congr 2
    funext record
    exact congrArg (!·) (product_recordCells record product)
  simp only [Tables.execute, hrows]
  rfl

end Contents

/-! ## Contents that change -/

namespace Contents.Sound

variable {contents : Contents} (hsound : contents.Sound)

include hsound

/-- A record may take the place of another of the same id, unless its product is taken. -/
theorem replaceRecord {first rest : List StockRecord} {record updated : StockRecord}
    (hrecords : contents.records = first ++ record :: rest) (hid : updated.id = record.id)
    (hproducts : ∀ other ∈ first ++ rest, other.product ≠ updated.product) :
    Sound { contents with records := first ++ updated :: rest } := by
  have hkept := hsound.products
  have hids := hsound.recordIds
  rw [hrecords, List.map_append, List.map_cons] at hkept hids
  refine { hsound with products := ?_, recordIds := ?_ }
  · rw [List.nodup_middle, ← List.map_append] at hkept
    rw [List.map_append, List.map_cons, List.nodup_middle, ← List.map_append]
    refine List.nodup_cons.2 ⟨fun hmem => ?_, (List.nodup_cons.1 hkept).2⟩
    obtain ⟨other, hother, hsame⟩ := List.mem_map.1 hmem
    exact hproducts other hother hsame
  · rw [List.map_append, List.map_cons, hid]
    exact hids

theorem addRecord {record : StockRecord} (hids : ∀ other ∈ contents.records, other.id ≠ record.id)
    (hproducts : ∀ other ∈ contents.records, other.product ≠ record.product) :
    Sound { contents with records := contents.records ++ [record] } := by
  refine { hsound with products := ?_, recordIds := ?_ }
  · rw [List.map_append]
    exact hsound.products.append (List.nodup_singleton _) (by simpa using hproducts)
  · rw [List.map_append]
    exact hsound.recordIds.append (List.nodup_singleton _) (by simpa using hids)

theorem removeRecord (product : ProductId) :
    Sound { contents with records := contents.records.filter (·.product != product) } :=
  { hsound with
    products := (List.filter_sublist.map _).nodup hsound.products
    recordIds := (List.filter_sublist.map _).nodup hsound.recordIds }

theorem addReservation {reservation : Reservation}
    (hfresh : ∀ other ∈ contents.reservations, other.id ≠ reservation.id)
    (hlines : reservation.lines ≠ [])
    (hshort : reservation.lines.length ≤ ItemRow.positionLimit) :
    Sound { contents with
      reservations := contents.reservations ++ [reservation]
      items := contents.items ++ ItemRow.rows reservation } := by
  refine { hsound with reservationIds := ?_, lines := ?_, items := ?_ }
  · rw [List.map_append]
    exact hsound.reservationIds.append (List.nodup_singleton _) (by simpa using hfresh)
  · exact List.forall_mem_append.2
      ⟨hsound.lines, List.forall_mem_singleton.2 ⟨hlines, hshort⟩⟩
  · rw [List.flatMap_append, List.flatMap_singleton]
    exact hsound.items.append_right _

/-- A reservation may be settled in its place. -/
theorem settleReservation {first rest : List Reservation} {reservation : Reservation}
    (hreservations : contents.reservations = first ++ reservation :: rest) (status : Status)
    (time : Instant) :
    Sound { contents with reservations :=
      first ++ { reservation with status := status, updatedAt := time } :: rest } := by
  have hids := hsound.reservationIds
  have hlines := hsound.lines
  have hitems := hsound.items
  rw [hreservations] at hids hlines hitems
  obtain ⟨hfirst, hlater⟩ := List.forall_mem_append.1 hlines
  obtain ⟨hsettled, hrest⟩ := List.forall_mem_cons.1 hlater
  refine { hsound with reservationIds := ?_, lines := ?_, items := ?_ }
  · rw [List.map_append, List.map_cons] at hids ⊢
    exact hids
  · exact List.forall_mem_append.2 ⟨hfirst, List.forall_mem_cons.2 ⟨hsettled, hrest⟩⟩
  -- The rows of its lines know nothing of the status of a reservation.
  · rw [List.flatMap_append, List.flatMap_cons] at hitems ⊢
    exact hitems

end Contents.Sound

end Stockroom.Database
