import Stockroom.Proofs.Database.Contents
import Stockroom.Proofs.Store.Paging

/-!
# Statements that list rows

Listings of tables in terms of the domain values that the tables hold.
-/

namespace Stockroom.Database

/-- The reservations that are overdue, those that expired first coming first. -/
def overdueAmong (asOf : Instant) (reservations : List Reservation) : List Reservation :=
  Sorting.sort (fun left right => !(right.expiresAt < left.expiresAt))
    (reservations.filter fun reservation => reservation.isPending && reservation.isExpired asOf)

/-- The records that are low on stock, in the order of their listing. -/
def lowAmong (threshold : Option Quantity) (records : List StockRecord) : List StockRecord :=
  Sorting.sort MemoryStore.listedBefore (records.filter (MemoryStore.isListed threshold))

theorem isOverdue_reservationCells (asOf : Instant) (reservation : Reservation) :
    Tables.isOverdue asOf (reservationCells reservation) =
      (reservation.isPending && reservation.isExpired asOf) := by
  have hstatus : (some reservation.status.word == some Status.pending.word) =
      reservation.isPending := by
    rw [Reservation.isPending]
    cases reservation.status <;> decide
  change (some reservation.status.word == some Status.pending.word && _) = _
  rw [hstatus]
  rfl

theorem isListed_recordCells (threshold : Option Quantity) (record : StockRecord) :
    Tables.isListed (threshold.map ofQuantity) (recordCells record) =
      MemoryStore.isListed threshold record := by
  have hpositive : decide ((0 : Int32) < ofQuantity record.available) = record.isInStock := by
    rw [Bool.eq_iff_iff, decide_eq_true_iff, Int32.lt_iff_toInt_lt, toInt_ofQuantity]
    simp [StockRecord.isInStock, Quantity.isZero, Nat.pos_iff_ne_zero]
  have hbound (bound : Quantity) : decide (ofQuantity record.available ≤ ofQuantity bound) =
      decide (record.available ≤ bound) :=
    decide_eq_decide.2 ofQuantity_le_iff
  cases threshold with
  | none => exact congrArg₂ (· && ·) hpositive (hbound record.lowStockThreshold)
  | some bound => exact congrArg₂ (· && ·) hpositive (hbound bound)

theorem listedBefore_recordCells (left right : StockRecord) :
    MemoryStore.listedBefore left right =
      Tables.listedBefore (recordCells left) (recordCells right) := by
  have hless : decide (left.available < right.available) =
      decide (ofQuantity left.available < ofQuantity right.available) :=
    decide_eq_decide.2 ofQuantity_lt_iff.symm
  have hsame : (left.available == right.available) =
      (some (ofQuantity left.available) == some (ofQuantity right.available)) := by
    rw [Bool.eq_iff_iff, beq_iff_eq, beq_iff_eq, Option.some_inj]
    exact ofQuantity_injective.eq_iff.symm
  rw [MemoryStore.listedBefore, hless, hsame]
  rfl

/-- Records of distinct products have one listing, in whatever order they are given. -/
theorem lowAmong_eq_of_perm (threshold : Option Quantity) {left right : List StockRecord}
    (hperm : left.Perm right) (hproducts : (left.map StockRecord.product).Nodup) :
    lowAmong threshold left = lowAmong threshold right := by
  rw [lowAmong, lowAmong, MemoryStore.listedBefore_eq]
  refine Listing.sort_eq_of_perm (hperm.filter _) fun one hone other hother _ hproduct => ?_
  exact List.inj_on_of_nodup_map hproducts (List.mem_of_mem_filter hone)
    (List.mem_of_mem_filter hother) hproduct

namespace Contents

variable (contents : Contents)

theorem execute_overdueReservations (asOf : Instant) (limit : Nat) :
    contents.tables.execute (.overdueReservations asOf limit) =
      .ok (((overdueAmong asOf contents.reservations).take limit).map reservationCells,
        contents.tables) := by
  have hrows : Sorting.sort (fun left right => !cellBefore right.expiresAt left.expiresAt)
      (contents.tables.reservations.filter (Tables.isOverdue asOf)) =
        (overdueAmong asOf contents.reservations).map reservationCells := by
    have hfilter : Tables.isOverdue asOf ∘ reservationCells = fun reservation =>
        reservation.isPending && reservation.isExpired asOf :=
      funext (isOverdue_reservationCells asOf)
    have hsame (left right : Reservation) : (!decide (right.expiresAt < left.expiresAt)) =
        !cellBefore (reservationCells right).expiresAt (reservationCells left).expiresAt := rfl
    rw [tables, List.filter_map, hfilter]
    exact (Sorting.map_sort hsame _).symm
  rw [List.map_take, ← hrows]
  rfl

theorem filter_isListed (threshold : Option Quantity) :
    contents.tables.inventory.filter (Tables.isListed (threshold.map ofQuantity)) =
      (contents.records.filter (MemoryStore.isListed threshold)).map recordCells := by
  have hfilter : Tables.isListed (threshold.map ofQuantity) ∘ recordCells =
      MemoryStore.isListed threshold :=
    funext (isListed_recordCells threshold)
  rw [tables, List.filter_map, hfilter]

theorem execute_countLowStock (threshold : Option Quantity) :
    contents.tables.execute (.countLowStock (threshold.map ofQuantity)) =
      .ok ((lowAmong threshold contents.records).length, contents.tables) := by
  rw [lowAmong, Sorting.length_sort, ← List.length_map recordCells, ← filter_isListed]
  rfl

theorem execute_lowStock (threshold : Option Quantity) (limit offset : Nat) :
    contents.tables.execute (.lowStock (threshold.map ofQuantity) limit offset) =
      .ok ((((lowAmong threshold contents.records).drop offset).take limit).map recordCells,
        contents.tables) := by
  have hlisting : Sorting.sort Tables.listedBefore (contents.tables.inventory.filter
      (Tables.isListed (threshold.map ofQuantity))) =
        (lowAmong threshold contents.records).map recordCells := by
    rw [filter_isListed, lowAmong, Sorting.map_sort listedBefore_recordCells]
  have hnonneg : ¬ (offset : Int) < 0 := by omega
  simp only [Tables.execute, hlisting, if_neg hnonneg, Int.toNat_natCast, List.map_take,
    List.map_drop]

end Contents

end Stockroom.Database
