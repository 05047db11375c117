import Stockroom.Proofs.Database.Rows
import Stockroom.Store.Call

/-!
# What columns keep

A record or a reservation is read back from its rows with its times cut to the
microsecond.  What has been cut once is cut no further.
-/

namespace Stockroom

/-- A column keeps what it gives back. -/
theorem Instant.inColumn_inColumn (instant : Instant) :
    instant.inColumn.inColumn = instant.inColumn := by
  cases hcolumn : ofMicroseconds? instant.toMicroseconds with
  | none =>
    have hsame : instant.inColumn = instant := by
      rw [inColumn, hcolumn, Option.getD_none]
    rw [hsame, hsame]
  | some kept =>
    have hkept : instant.inColumn = kept := by
      rw [inColumn, hcolumn, Option.getD_some]
    have horigin : columnOrigin.IsWhole := ⟨Nat.zero_lt_succ _, rfl⟩
    have hwhole : kept.IsWhole := by
      apply isWhole_of_add? horigin _ hcolumn
      exact Int.mul_emod_left _ 1000
    rw [hkept, inColumn_of_isWhole hwhole]

/-- A record as it is read back from its row. -/
def StockRecord.inRow (record : StockRecord) : StockRecord :=
  { record with
    lastRestock := record.lastRestock.map Instant.inColumn
    createdAt := record.createdAt.inColumn
    updatedAt := record.updatedAt.inColumn }

/-- A reservation as it is read back from its rows. -/
def Reservation.inRow (reservation : Reservation) : Reservation :=
  { reservation with
    expiresAt := reservation.expiresAt.inColumn
    createdAt := reservation.createdAt.inColumn
    updatedAt := reservation.updatedAt.inColumn }

namespace StockRecord

@[simp]
theorem id_inRow (record : StockRecord) : record.inRow.id = record.id := by
  rw [inRow]

theorem inRow_inRow (record : StockRecord) : record.inRow.inRow = record.inRow := by
  simp only [inRow, Option.map_map, Instant.inColumn_inColumn, Function.comp_def]

/-- A record is kept as it is when each of its times is. -/
theorem inRow_eq_iff {record : StockRecord} : record.inRow = record ↔
    record.lastRestock.map Instant.inColumn = record.lastRestock ∧
      record.createdAt.inColumn = record.createdAt ∧
        record.updatedAt.inColumn = record.updatedAt := by
  cases record
  simp [inRow]

end StockRecord

namespace Reservation

@[simp]
theorem id_inRow (reservation : Reservation) : reservation.inRow.id = reservation.id := by
  rw [inRow]

@[simp]
theorem lines_inRow (reservation : Reservation) :
    reservation.inRow.lines = reservation.lines := by
  rw [inRow]

theorem inRow_inRow (reservation : Reservation) : reservation.inRow.inRow = reservation.inRow := by
  simp only [inRow, Instant.inColumn_inColumn]

theorem inRow_eq_iff {reservation : Reservation} : reservation.inRow = reservation ↔
    reservation.expiresAt.inColumn = reservation.expiresAt ∧
      reservation.createdAt.inColumn = reservation.createdAt ∧
        reservation.updatedAt.inColumn = reservation.updatedAt := by
  cases reservation
  simp [inRow]

end Reservation

namespace Database

theorem InventoryRow.bound_eq (record : StockRecord) :
    (ofRecord record).bound = ofRecord record.inRow := by
  simp only [bound, ofRecord, StockRecord.inRow]

theorem ReservationRow.bound_eq (reservation : Reservation) :
    (ofReservation reservation).bound = ofReservation reservation.inRow := by
  simp only [bound, ofReservation, Reservation.inRow]

theorem ItemRow.rows_inRow (reservation : Reservation) :
    rows reservation.inRow = rows reservation := by
  rw [rows, rows, reservation.id_inRow, reservation.lines_inRow]

end Database

end Stockroom
