import Stockroom.Database.Statement
import Stockroom.Proofs.Time.Microsecond

/-!
# Rows of domain values

A record or a reservation whose times are whole microseconds is what its rows
are read back as, whatever else it holds.
-/

namespace Stockroom

/-- The times of a record are whole microseconds. -/
structure StockRecord.IsWhole (record : StockRecord) : Prop where
  lastRestock : ∀ time, record.lastRestock = some time → time.IsWhole
  createdAt : record.createdAt.IsWhole
  updatedAt : record.updatedAt.IsWhole

structure Reservation.IsWhole (reservation : Reservation) : Prop where
  expiresAt : reservation.expiresAt.IsWhole
  createdAt : reservation.createdAt.IsWhole
  updatedAt : reservation.updatedAt.IsWhole

namespace Database

theorem toInt_ofQuantity (quantity : Quantity) : (ofQuantity quantity).toInt = quantity.value := by
  have hbound := quantity.value_le
  exact Int32.toInt_ofInt_of_le (by omega) (by omega)

theorem quantityColumn_ofQuantity (column : String) (quantity : Quantity) :
    quantityColumn column (ofQuantity quantity) = .ok quantity := by
  rw [quantityColumn, toInt_ofQuantity, Quantity.ofInt_value]
  rfl

theorem productColumn_text (product : ProductId) : productColumn product.text = .ok product := by
  rw [productColumn, ProductId.ofText_text]
  rfl

theorem ofQuantity_le_iff {left right : Quantity} :
    ofQuantity left ≤ ofQuantity right ↔ left ≤ right := by
  rw [Int32.le_iff_toInt_le, toInt_ofQuantity, toInt_ofQuantity]
  exact Int.ofNat_le

theorem ofQuantity_lt_iff {left right : Quantity} :
    ofQuantity left < ofQuantity right ↔ left < right := by
  rw [Int32.lt_iff_toInt_lt, toInt_ofQuantity, toInt_ofQuantity]
  exact Int.ofNat_lt

theorem ofQuantity_injective : Function.Injective ofQuantity := by
  intro left right hsame
  have hvalues := congrArg Int32.toInt hsame
  rw [toInt_ofQuantity, toInt_ofQuantity] at hvalues
  exact Quantity.ext (Int.ofNat_inj.1 hvalues)

namespace InventoryRow

theorem toRecord_ofRecord (record : StockRecord) : (ofRecord record).toRecord = .ok record := by
  simp only [toRecord, ofRecord, productColumn_text, quantityColumn_ofQuantity]
  rfl

theorem bound_ofRecord {record : StockRecord} (hwhole : record.IsWhole) :
    (ofRecord record).bound = ofRecord record := by
  have hrestock : record.lastRestock.map Instant.inColumn = record.lastRestock := by
    cases hrestock : record.lastRestock with
    | none => rfl
    | some time =>
      exact congrArg some (Instant.inColumn_of_isWhole (hwhole.lastRestock time hrestock))
  simp only [bound, ofRecord, hrestock, Instant.inColumn_of_isWhole hwhole.createdAt,
    Instant.inColumn_of_isWhole hwhole.updatedAt]

end InventoryRow

namespace ReservationRow

theorem bound_ofReservation {reservation : Reservation} (hwhole : reservation.IsWhole) :
    (ofReservation reservation).bound = ofReservation reservation := by
  simp only [bound, ofReservation, Instant.inColumn_of_isWhole hwhole.createdAt,
    Instant.inColumn_of_isWhole hwhole.updatedAt, Instant.inColumn_of_isWhole hwhole.expiresAt]

end ReservationRow

namespace ItemRow

/-- The rows of lines from a position on. -/
def rowsFrom (reservation : Uuid) (position : Nat) : List ReservationLine → List ItemRow
  | [] => []
  | line :: rest =>
    ⟨reservation, .ofInt position, line.product.text, ofQuantity line.quantity⟩ ::
      rowsFrom reservation (position + 1) rest

/-- The rows of the lines of a reservation. -/
def rows (reservation : Reservation) : List ItemRow :=
  rowsFrom reservation.id 0 reservation.lines

theorem ofLines_eq (reservation : Uuid) {position : Nat} {lines : List ReservationLine}
    (hshort : position + lines.length ≤ positionLimit) :
    ofLines reservation position lines = .ok (rowsFrom reservation position lines) := by
  induction lines generalizing position with
  | nil => rfl
  | cons line rest ih =>
    rw [List.length_cons] at hshort
    have hinside : ¬ positionLimit ≤ position := by omega
    have hrest : position + 1 + rest.length ≤ positionLimit := by omega
    rw [ofLines, if_neg hinside, ih hrest]
    rfl

theorem ofReservation_eq {reservation : Reservation}
    (hshort : reservation.lines.length ≤ positionLimit) :
    ofReservation reservation = .ok (rows reservation) :=
  ofLines_eq reservation.id (by omega)

theorem toLine_rowsFrom (reservation : Uuid) (position : Nat) (lines : List ReservationLine) :
    (rowsFrom reservation position lines).mapM toLine = .ok lines := by
  induction lines generalizing position with
  | nil => rfl
  | cons line rest ih =>
    have hfirst : toLine ⟨reservation, .ofInt position, line.product.text,
        ofQuantity line.quantity⟩ = .ok line := by
      simp only [toLine, productColumn_text, quantityColumn_ofQuantity]
      rfl
    rw [rowsFrom, List.mapM_cons, hfirst, ih]
    rfl

theorem reservation_of_mem_rowsFrom {reservation : Uuid} {position : Nat}
    {lines : List ReservationLine} {row : ItemRow}
    (hmem : row ∈ rowsFrom reservation position lines) : row.reservation = reservation := by
  induction lines generalizing position with
  | nil => cases hmem
  | cons line rest ih =>
    rcases List.mem_cons.1 hmem with rfl | hrest
    · rfl
    · exact ih hrest

end ItemRow

theorem ReservationRow.toReservation_rows {reservation : Reservation}
    (hlines : reservation.lines ≠ []) :
    (ofReservation reservation).toReservation (ItemRow.rows reservation) = .ok reservation := by
  have hstatus : statusColumn reservation.status.word = .ok reservation.status := by
    rw [statusColumn, Status.ofWord?_word]
  have hnonempty : reservation.lines.isEmpty = false := List.isEmpty_eq_false_iff.2 hlines
  simp only [toReservation, ofReservation, hstatus, ItemRow.rows, ItemRow.toLine_rowsFrom,
    ok_bind, hnonempty]
  rfl

end Database

end Stockroom
