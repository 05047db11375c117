import Stockroom.Proofs.Database.Regrouping

/-!
# Rows and what they stand for

Reading a row undoes writing it, and writing undoes reading whatever can be
read.  A row of the inventory that cannot be read is refused over the first
column that is at fault.  Reservations come back out of rows that are mixed
with those of others, each with its own lines in their order.
-/

namespace Stockroom.Database

/-! ## Single columns -/

theorem productColumn_eq_ok_iff {text : String} {product : ProductId} :
    productColumn text = .ok product ↔ product.text = text := by
  constructor
  · intro hread
    rw [productColumn, mapError_eq_ok_iff, ProductId.ofText] at hread
    split at hread
    · cases hread
      rfl
    · cases hread
  · rintro rfl
    exact productColumn_text product

theorem productColumn_of_not_blank {text : String} (hnamed : Text.isBlank text = false) :
    ∃ product, productColumn text = .ok product :=
  ⟨⟨text, hnamed⟩, productColumn_text ⟨text, hnamed⟩⟩

theorem productColumn_of_blank {text : String} (hblank : Text.isBlank text = true) :
    productColumn text =
      .error (.corruptRow ("product_id" ++ ": " ++ Violation.emptyProductId.message)) := by
  have hnone : ¬ Text.isBlank text = false := by simp [hblank]
  rw [productColumn, ProductId.ofText, dif_neg hnone]
  rfl

variable {column : String} {value : Int32} {quantity : Quantity}

theorem quantityColumn_eq_ok_iff :
    quantityColumn column value = .ok quantity ↔ ofQuantity quantity = value := by
  rw [quantityColumn, mapError_eq_ok_iff, Quantity.ofInt_eq_ok_iff, ← toInt_ofQuantity,
    Int32.toInt_inj, eq_comm]

theorem quantityColumn_of_nonneg (hnonneg : 0 ≤ value) :
    ∃ quantity, quantityColumn column value = .ok quantity := by
  have hsmall : value.toInt < 2147483648 := value.toInt_lt
  have hunits : 0 ≤ value.toInt := Int32.le_iff_toInt_le.1 hnonneg
  refine ⟨⟨value.toInt.toNat, by omega⟩, ?_⟩
  rw [quantityColumn, mapError_eq_ok_iff, Quantity.ofInt_eq_ok_iff]
  exact (Int.toNat_of_nonneg hunits).symm

theorem quantityColumn_of_negative (hnegative : value < 0) : quantityColumn column value =
    .error (.corruptRow (column ++ ": " ++ (Violation.negativeQuantity value.toInt).message)) := by
  have hunits : value.toInt < 0 := Int32.lt_iff_toInt_lt.1 hnegative
  rw [quantityColumn, Quantity.ofInt, if_pos hunits]
  rfl

/-- A column that was read stands for something, or it is refused over what is wrong with it. -/
structure Judges {α : Type} (name : String) (fault : Option Violation)
    (result : Except StockError α) : Prop where
  sound : ∀ value, result = .ok value → fault = none
  refused : ∀ error, result = .error error →
    ∃ violation, fault = some violation ∧ error = .corruptRow (name ++ ": " ++ violation.message)

/-- What is wrong with the text of a product id. -/
def productFault? (text : String) : Option Violation :=
  if Text.isBlank text then some .emptyProductId else none

/-- What is wrong with a number of units. -/
def unitsFault? (value : Int32) : Option Violation :=
  if value < 0 then some (.negativeQuantity value.toInt) else none

theorem judges_product (text : String) :
    Judges "product_id" (productFault? text) (productColumn text) := by
  cases hblank : Text.isBlank text with
  | true =>
    rw [productColumn_of_blank hblank, productFault?, if_pos hblank]
    exact ⟨nofun, fun error herror => ⟨_, rfl, (Except.error.inj herror).symm⟩⟩
  | false =>
    obtain ⟨product, hread⟩ := productColumn_of_not_blank hblank
    rw [hread, productFault?, if_neg (Bool.eq_false_iff.1 hblank)]
    exact ⟨fun _ _ => rfl, nofun⟩

theorem judges_units (column : String) (value : Int32) :
    Judges column (unitsFault? value) (quantityColumn column value) := by
  by_cases hnegative : value < 0
  · rw [quantityColumn_of_negative hnegative, unitsFault?, if_pos hnegative]
    exact ⟨nofun, fun error herror => ⟨_, rfl, (Except.error.inj herror).symm⟩⟩
  · obtain ⟨quantity, hread⟩ := @quantityColumn_of_nonneg column value (Int32.not_lt.1 hnegative)
    rw [hread, unitsFault?, if_neg hnegative]
    exact ⟨fun _ _ => rfl, nofun⟩

/-! ## Rows of the inventory -/

/-- The columns of a row of the inventory that may stand for nothing. -/
inductive InventoryColumn where
  | product
  | available
  | reserved
  | lowStockThreshold

namespace InventoryColumn

/-- The columns in the order in which they are read. -/
def all : List InventoryColumn := [product, available, reserved, lowStockThreshold]

def name : InventoryColumn → String
  | product => "product_id"
  | available => "available_quantity"
  | reserved => "reserved_quantity"
  | lowStockThreshold => "low_stock_threshold"

end InventoryColumn

namespace InventoryRow

variable {row : InventoryRow} {record : StockRecord} {error : StockError}

/-- Every column stands for something. -/
structure Sound (row : InventoryRow) : Prop where
  product : Text.isBlank row.product = false
  available : 0 ≤ row.available
  reserved : 0 ≤ row.reserved
  lowStockThreshold : 0 ≤ row.lowStockThreshold

def fault? (row : InventoryRow) : InventoryColumn → Option Violation
  | .product => productFault? row.product
  | .available => unitsFault? row.available
  | .reserved => unitsFault? row.reserved
  | .lowStockThreshold => unitsFault? row.lowStockThreshold

/-- A column is at fault, and none that is read before it. -/
structure FirstFault (row : InventoryRow) (column : InventoryColumn) (violation : Violation) :
    Prop where
  fault : row.fault? column = some violation
  earlier : ∃ before after, InventoryColumn.all = before ++ column :: after ∧
    ∀ other ∈ before, row.fault? other = none

/-- Writing undoes reading. -/
theorem ofRecord_of_toRecord (hread : row.toRecord = .ok record) : ofRecord record = row := by
  obtain ⟨product, hproduct, hread⟩ := bind_eq_ok_iff.1 hread
  obtain ⟨available, havailable, hread⟩ := bind_eq_ok_iff.1 hread
  obtain ⟨reserved, hreserved, hread⟩ := bind_eq_ok_iff.1 hread
  obtain ⟨threshold, hthreshold, hread⟩ := bind_eq_ok_iff.1 hread
  cases hread
  rw [ofRecord]
  simp only [productColumn_eq_ok_iff.1 hproduct, quantityColumn_eq_ok_iff.1 havailable,
    quantityColumn_eq_ok_iff.1 hreserved, quantityColumn_eq_ok_iff.1 hthreshold]

theorem nonneg_ofQuantity (quantity : Quantity) : 0 ≤ ofQuantity quantity := by
  rw [Int32.le_iff_toInt_le, toInt_ofQuantity]
  exact Int.natCast_nonneg _

theorem sound_ofRecord (record : StockRecord) : (ofRecord record).Sound where
  product := record.product.notBlank
  available := nonneg_ofQuantity _
  reserved := nonneg_ofQuantity _
  lowStockThreshold := nonneg_ofQuantity _

theorem exists_toRecord_iff : (∃ record, row.toRecord = .ok record) ↔ row.Sound := by
  constructor
  · rintro ⟨record, hread⟩
    exact ofRecord_of_toRecord hread ▸ sound_ofRecord record
  · intro hsound
    obtain ⟨product, hproduct⟩ := productColumn_of_not_blank hsound.product
    obtain ⟨available, havailable⟩ := quantityColumn_of_nonneg hsound.available
    obtain ⟨reserved, hreserved⟩ := quantityColumn_of_nonneg hsound.reserved
    obtain ⟨threshold, hthreshold⟩ := quantityColumn_of_nonneg hsound.lowStockThreshold
    rw [toRecord, hproduct, ok_bind, havailable, ok_bind, hreserved, ok_bind, hthreshold, ok_bind]
    exact ⟨_, rfl⟩

/-- Columns are read one after another, up to the first that is at fault. -/
theorem firstFault_of_toRecord (herror : row.toRecord = .error error) :
    ∃ column violation, row.FirstFault column violation ∧
      error = .corruptRow (column.name ++ ": " ++ violation.message) := by
  rcases bind_eq_error_iff.1 herror with hfails | ⟨product, hproduct, herror⟩
  · obtain ⟨violation, hfault, rfl⟩ := (judges_product _).refused error hfails
    exact ⟨.product, violation, ⟨hfault, [], _, rfl, nofun⟩, rfl⟩
  have hproduct := (judges_product _).sound product hproduct
  rcases bind_eq_error_iff.1 herror with hfails | ⟨available, havailable, herror⟩
  · obtain ⟨violation, hfault, rfl⟩ := (judges_units _ _).refused error hfails
    refine ⟨.available, violation, ⟨hfault, [.product], _, rfl, ?_⟩, rfl⟩
    exact List.forall_mem_singleton.2 hproduct
  have havailable := (judges_units _ _).sound available havailable
  rcases bind_eq_error_iff.1 herror with hfails | ⟨reserved, hreserved, herror⟩
  · obtain ⟨violation, hfault, rfl⟩ := (judges_units _ _).refused error hfails
    refine ⟨.reserved, violation, ⟨hfault, [.product, .available], _, rfl, ?_⟩, rfl⟩
    exact List.forall_mem_cons.2 ⟨hproduct, List.forall_mem_singleton.2 havailable⟩
  have hreserved := (judges_units _ _).sound reserved hreserved
  rcases bind_eq_error_iff.1 herror with hfails | ⟨_, _, hdone⟩
  · obtain ⟨violation, hfault, rfl⟩ := (judges_units _ _).refused error hfails
    refine ⟨.lowStockThreshold, violation,
      ⟨hfault, [.product, .available, .reserved], _, rfl, ?_⟩, rfl⟩
    exact List.forall_mem_cons.2 ⟨hproduct, List.forall_mem_cons.2
      ⟨havailable, List.forall_mem_singleton.2 hreserved⟩⟩
  · cases hdone

end InventoryRow

/-! ## Both kinds of rows -/

/-- Rows and values are inverse.  A row of the inventory stands for a record exactly if none of its
columns is at fault, and reservations come back out of mixed rows as they were put in. -/
theorem rows_inverse_to_values :
    (∀ record : StockRecord, (InventoryRow.ofRecord record).toRecord = .ok record) ∧
    (∀ row : InventoryRow,
      ((∃ record, row.toRecord = .ok record) ↔ row.Sound) ∧
      (∀ record, row.toRecord = .ok record → InventoryRow.ofRecord record = row) ∧
      ∀ error, row.toRecord = .error error → error.kind = .storageFailure ∧
        ∃ column violation, row.FirstFault column violation ∧
          error = .corruptRow (column.name ++ ": " ++ violation.message)) ∧
    (∀ stored : List Reservation, (stored.map Reservation.id).Nodup →
      (∀ reservation ∈ stored, 1 ≤ reservation.lines.length ∧
        reservation.lines.length ≤ 2 ^ 31) →
      (∃ tables : Tables, tables.Mix stored) ∧
      ∀ tables : Tables, tables.Mix stored → ∀ rows : List ReservationRow, rows.Nodup →
        (∀ row ∈ rows, ReservationCells.ofRow row ∈ tables.reservations) →
        ∃ chosen ⊆ stored, chosen.map ReservationRow.ofReservation = rows ∧
          ∀ now begun database, Database.Stands begun tables database →
            ∃ last, last.Stands begun tables ∧
              perform now (loadReservations rows) database = (.ok chosen, last)) ∧
    (∀ (row : ReservationRow) (items : List ItemRow),
      Status.ofWord? row.status = none ∨ items = [] →
        ∃ error, row.toReservation items = .error error ∧ error.kind = .storageFailure) ∧
    ∀ (tables : Tables) (rows : List ReservationRow), ∀ row ∈ rows,
      (Status.ofWord? row.status = none ∨
        ∀ cells ∈ tables.items, cells.reservation ≠ some row.id) →
      ∀ now begun database, Database.Stands begun tables database →
        ∃ error last, last.Stands begun tables ∧
          perform now (loadReservations rows) database = (.error error, last) ∧
            error.kind = .storageFailure := by
  refine ⟨InventoryRow.toRecord_ofRecord, fun row => ⟨InventoryRow.exists_toRecord_iff,
    fun record => InventoryRow.ofRecord_of_toRecord, fun error herror => ?_⟩,
    fun stored hdistinct hlines => ?_, fun row items => ReservationRow.toReservation_refuses,
    fun tables rows row hmem hlacks now begun database hstands =>
      perform_loadReservations_refuses hstands hmem hlacks⟩
  · obtain ⟨column, violation, hfirst, rfl⟩ := InventoryRow.firstFault_of_toRecord herror
    exact ⟨rfl, column, violation, hfirst, rfl⟩
  · have hlimit : ItemRow.positionLimit = 2 ^ 31 := by decide
    have hstorable : ∀ reservation ∈ stored, reservation.lines ≠ [] ∧
        reservation.lines.length ≤ ItemRow.positionLimit := fun reservation hmem =>
      ⟨List.ne_nil_of_length_pos (hlines reservation hmem).1, hlimit ▸ (hlines reservation hmem).2⟩
    refine ⟨Tables.exists_mix fun reservation hmem => (hstorable reservation hmem).2,
      fun tables hmix rows honce hrows => ?_⟩
    obtain ⟨chosen, hchosen, rfl⟩ :=
      ReservationRow.exists_chosen fun row hrow => hmix.mem_rows (hrows row hrow)
    exact ⟨chosen, hchosen, rfl, fun now begun database hstands =>
      perform_loadReservations_of_mix hstands hmix hdistinct hstorable hchosen
        (List.Nodup.of_map _ honce)⟩

end Stockroom.Database
