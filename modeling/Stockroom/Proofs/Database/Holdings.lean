import Stockroom.Proofs.Database.Contents
import Stockroom.Proofs.Listing

/-!
# Statements on reservations

What statements do to the rows of reservations and of their lines.  The rows
of lines come back sorted by reservation and position, so those of one
reservation are in the order of its lines.
-/

namespace Stockroom.Database

namespace ItemRow

/-- The order in which item rows are listed. -/
def before : ItemRow → ItemRow → Bool :=
  Listing.before ItemRow.reservation ItemRow.position

theorem before_eq (left right : ItemRow) :
    before left right = Tables.itemBefore (.ofRow left) (.ofRow right) := by
  have hsame : (left.reservation == right.reservation) =
      (some left.reservation == some right.reservation) := by
    rw [Bool.eq_iff_iff, beq_iff_eq, beq_iff_eq]
    exact Option.some_inj.symm
  rw [before, Listing.before, hsame]
  rfl

theorem toInt_position {position : Nat} (hinside : position < positionLimit) :
    (Int32.ofInt position).toInt = position := by
  have hbound : position < 2147483648 := hinside
  exact Int32.toInt_ofInt_of_le (by omega) (by omega)

theorem le_position_of_mem {reservation : Uuid} {position : Nat} {lines : List ReservationLine}
    (hshort : position + lines.length ≤ positionLimit) {row : ItemRow}
    (hmem : row ∈ rowsFrom reservation position lines) : (position : Int) ≤ row.position.toInt := by
  induction lines generalizing position with
  | nil => cases hmem
  | cons line rest ih =>
    rw [List.length_cons] at hshort
    rcases List.mem_cons.1 hmem with rfl | hrest
    · rw [toInt_position (by omega)]
    · have hlater := ih (by omega) hrest
      omega

/-- The rows of lines stand in the order of their positions. -/
theorem pairwise_rowsFrom {reservation : Uuid} {position : Nat} {lines : List ReservationLine}
    (hshort : position + lines.length ≤ positionLimit) :
    (rowsFrom reservation position lines).Pairwise
      fun earlier later => earlier.position < later.position := by
  induction lines generalizing position with
  | nil => exact List.Pairwise.nil
  | cons line rest ih =>
    rw [List.length_cons] at hshort
    refine List.pairwise_cons.2 ⟨fun later hlater => ?_, ih (by omega)⟩
    have hposition := le_position_of_mem (by omega) hlater
    rw [Int32.lt_iff_toInt_lt, toInt_position (by omega)]
    omega

theorem eq_of_position {rows : List ItemRow}
    (hsorted : rows.Pairwise fun earlier later => earlier.position < later.position)
    {one other : ItemRow} (hone : one ∈ rows) (hother : other ∈ rows)
    (hsame : one.position = other.position) : one = other := by
  have hdistinct : (rows.map ItemRow.position).Nodup := by
    refine List.pairwise_map.2 (hsorted.imp fun {earlier later} hless heq => ?_)
    rw [heq] at hless
    exact Std.lt_irrefl hless
  exact List.inj_on_of_nodup_map hdistinct hone hother hsame

end ItemRow

theorem Tables.checkStatus_word (status : Status) : checkStatus status.word = .ok () := by
  rw [checkStatus, Status.ofWord?_word]
  rfl

namespace Contents

variable (contents : Contents)

theorem find?_reservations (id : Uuid) :
    contents.tables.reservations.find? (·.id == some id) =
      (contents.reservations.find? (·.id == id)).map reservationCells := by
  rw [tables, List.find?_map]
  congr 2

theorem execute_findReservation (id : Uuid) :
    contents.tables.execute (.findReservation id) =
      .ok ((contents.reservations.find? (·.id == id)).map reservationCells, contents.tables) := by
  rw [← find?_reservations]
  rfl

theorem execute_lockReservation (id : Uuid) :
    contents.tables.execute (.lockReservation id) =
      .ok ((contents.reservations.find? (·.id == id)).map reservationCells, contents.tables) :=
  contents.execute_findReservation id

/-- The rows of the lines of some reservations, as they are listed. -/
def itemsOf (ids : List Uuid) : List ItemRow :=
  Sorting.sort ItemRow.before (contents.items.filter fun row => ids.contains row.reservation)

theorem sort_filter_items (ids : List Uuid) :
    Sorting.sort Tables.itemBefore ((contents.items.map ItemCells.ofRow).filter
      fun row => row.reservation.any ids.contains) =
        (contents.itemsOf ids).map ItemCells.ofRow := by
  rw [itemsOf, Sorting.map_sort ItemRow.before_eq, List.filter_map]
  rfl

theorem execute_itemsOf (ids : List Uuid) :
    contents.tables.execute (.itemsOf ids) =
      .ok ((contents.itemsOf ids).map ItemCells.ofRow, contents.tables) := by
  rw [← sort_filter_items]
  rfl

theorem mem_itemsOf {ids : List Uuid} {row : ItemRow} (hmem : row ∈ contents.itemsOf ids) :
    row.reservation ∈ ids := by
  rw [itemsOf, Sorting.mem_sort, List.mem_filter] at hmem
  exact List.contains_iff_mem.1 hmem.2

variable {contents}

/-- Every item is the row of a line. -/
theorem Sound.exists_of_mem_items (hsound : contents.Sound) {row : ItemRow}
    (hrow : row ∈ contents.items) :
    ∃ reservation ∈ contents.reservations, row ∈ ItemRow.rows reservation :=
  List.mem_flatMap.1 (hsound.items.mem_iff.1 hrow)

theorem perm_filter_items (hsound : contents.Sound) {reservation : Reservation}
    (hmem : reservation ∈ contents.reservations) :
    (contents.items.filter (·.reservation == reservation.id)).Perm
      (ItemRow.rows reservation) := by
  have hrows (other : Reservation) : (ItemRow.rows other).filter
      (·.reservation == reservation.id) =
        if other.id = reservation.id then ItemRow.rows other else [] := by
    split
    · rename_i hsame
      refine List.filter_eq_self.2 fun row hrow => beq_iff_eq.2 ?_
      exact (ItemRow.reservation_of_mem_rowsFrom hrow).trans hsame
    · rename_i hne
      refine List.filter_eq_nil_iff.2 fun row hrow hsame => hne ?_
      exact (ItemRow.reservation_of_mem_rowsFrom hrow).symm.trans (beq_iff_eq.1 hsame)
  obtain ⟨first, rest, hsplit⟩ := List.append_of_mem hmem
  have hids : ((first ++ reservation :: rest).map Reservation.id).Nodup :=
    hsplit ▸ hsound.reservationIds
  have hnone {others : List Reservation} (hothers : ∀ other ∈ others, other ∈ first ++ rest) :
      (others.flatMap ItemRow.rows).filter (·.reservation == reservation.id) = [] := by
    rw [List.filter_flatMap, List.flatMap_eq_nil_iff]
    intro other hother
    rw [hrows, if_neg]
    exact Keys.ne_of_distinct hids other (hothers other hother)
  refine (hsound.items.filter _).trans (List.Perm.of_eq ?_)
  rw [hsplit, List.flatMap_append, List.flatMap_cons, List.filter_append,
    List.filter_append, hrows, if_pos rfl, hnone fun other => List.mem_append_left _,
    hnone fun other => List.mem_append_right _, List.nil_append, List.append_nil]

/-- Listed among others, the rows of a reservation are in the order of its lines. -/
theorem filter_itemsOf (hsound : contents.Sound) {reservation : Reservation}
    (hmem : reservation ∈ contents.reservations) {ids : List Uuid} (hid : reservation.id ∈ ids) :
    (contents.itemsOf ids).filter (·.reservation == reservation.id) =
      ItemRow.rows reservation := by
  have hshort : 0 + reservation.lines.length ≤ ItemRow.positionLimit :=
    (Nat.zero_add _).trans_le (hsound.lines reservation hmem).2
  have hpositions : (ItemRow.rowsFrom reservation.id 0 reservation.lines).Pairwise
      fun earlier later => earlier.position < later.position :=
    ItemRow.pairwise_rowsFrom hshort
  have hperm : ((contents.itemsOf ids).filter (·.reservation == reservation.id)).Perm
      (ItemRow.rows reservation) := by
    refine ((Sorting.perm_sort _ _).filter _).trans
      ((List.Perm.of_eq ?_).trans (perm_filter_items hsound hmem))
    rw [List.filter_filter]
    refine List.filter_congr fun row _ => ?_
    rw [Bool.and_eq_left_iff_imp]
    intro hsame
    rw [beq_iff_eq.1 hsame]
    exact List.contains_iff_mem.2 hid
  have hsorted : ((contents.itemsOf ids).filter (·.reservation == reservation.id)).Pairwise
      fun earlier later => ItemRow.before earlier later = true :=
    (Sorting.pairwise_sort Listing.before_trans Listing.before_total _).filter _
  refine hperm.eq_of_pairwise (fun one other hone hother hle hge => ?_) hsorted ?_
  · exact ItemRow.eq_of_position hpositions (hperm.mem_iff.1 hone) hother
      (Listing.eq_keys_of_before hle hge).2
  · refine hpositions.imp_of_mem fun {earlier later} hearlier hlater hless => ?_
    refine Listing.before_iff.2 (.inr ⟨?_, Std.le_of_lt hless⟩)
    exact (ItemRow.reservation_of_mem_rowsFrom hearlier).trans
      (ItemRow.reservation_of_mem_rowsFrom hlater).symm

theorem itemsOf_singleton (hsound : contents.Sound) {reservation : Reservation}
    (hmem : reservation ∈ contents.reservations) :
    contents.itemsOf [reservation.id] = ItemRow.rows reservation := by
  rw [← filter_itemsOf hsound hmem (List.mem_singleton_self reservation.id)]
  refine (List.filter_eq_self.2 fun row hrow => beq_iff_eq.2 ?_).symm
  exact List.mem_singleton.1 (contents.mem_itemsOf hrow)

/-! ## Writing reservations -/

theorem execute_insertReservation {reservation : Reservation}
    (hfresh : ∀ other ∈ contents.reservations, other.id ≠ reservation.id) :
    contents.tables.execute (.insertReservation (.ofReservation reservation)) =
      .ok ((), { contents.tables with
        reservations := contents.tables.reservations ++ [reservationCells reservation] }) := by
  have hkey : contents.tables.reservations.all (·.id != some reservation.id) = true :=
    Tables.all_ne_of_fresh reservationCells_id hfresh
  simp only [Tables.execute, Tables.insertReservation, ReservationRow.ofReservation,
    Tables.checkStatus_word, Tables.checkReservationKey, hkey, ok_bind, Tables.require, if_true]
  rfl

/-- Rows of lines are inserted one after another, as long as their positions are free. -/
theorem foldlM_insertItem {tables : Tables} {reservation : Uuid} {position : Nat}
    {lines : List ReservationLine} (hshort : position + lines.length ≤ ItemRow.positionLimit)
    (hpositive : ∀ line ∈ lines, 0 < line.quantity.value)
    (hknown : tables.reservations.any (·.id == some reservation) = true)
    (hfree : ∀ cells ∈ tables.items, cells.reservation = some reservation →
      ∃ earlier < position, cells.position = some (.ofInt earlier)) :
    (ItemRow.rowsFrom reservation position lines).foldlM Tables.insertItem tables =
      .ok { tables with
        items := tables.items ++ (ItemRow.rowsFrom reservation position lines).map .ofRow } := by
  induction lines generalizing tables position with
  | nil =>
    rw [ItemRow.rowsFrom, List.map_nil, List.append_nil]
    rfl
  | cons line rest ih =>
    obtain ⟨hline, hrest⟩ := List.forall_mem_cons.1 hpositive
    rw [List.length_cons] at hshort
    have hquantity : decide (0 < ofQuantity line.quantity) = true := by
      rw [decide_eq_true_iff, Int32.lt_iff_toInt_lt, toInt_ofQuantity]
      exact Int.natCast_pos.2 hline
    have hunique : tables.items.all (fun other => other.reservation != some reservation ||
        other.position != some (.ofInt position)) = true := by
      rw [List.all_eq_true]
      intro cells hcells
      rw [Bool.or_eq_true, bne_iff_ne, bne_iff_ne]
      by_cases hsame : cells.reservation = some reservation
      · obtain ⟨earlier, hearlier, hposition⟩ := hfree cells hcells hsame
        refine .inr fun heq => ?_
        have hnumbers := congrArg Int32.toInt (Option.some.inj (hposition.symm.trans heq))
        rw [ItemRow.toInt_position (by omega), ItemRow.toInt_position (by omega)] at hnumbers
        omega
      · exact .inl hsame
    rw [ItemRow.rowsFrom, List.foldlM_cons, Tables.insertItem]
    simp only [hquantity, hunique, hknown, Tables.require, if_true, ok_bind]
    change List.foldlM Tables.insertItem _ _ = _
    have hnext : position + 1 + rest.length ≤ ItemRow.positionLimit := by omega
    let row : ItemRow :=
      ⟨reservation, .ofInt position, line.product.text, ofQuantity line.quantity⟩
    refine (@ih { tables with items := tables.items ++ [.ofRow row] } (position + 1) hnext hrest
      hknown fun cells hcells hsame => ?_).trans (by rw [List.append_assoc]; rfl)
    rcases List.mem_append.1 hcells with hold | hnew
    · obtain ⟨earlier, hearlier, hposition⟩ := hfree cells hold hsame
      exact ⟨earlier, Nat.lt_succ_of_lt hearlier, hposition⟩
    · rw [List.mem_singleton.1 hnew]
      exact ⟨position, Nat.lt_succ_self position, rfl⟩

/-- The rows of a new reservation's lines complete it. -/
theorem execute_insertItems (hsound : contents.Sound) {reservation : Reservation}
    (hfresh : ∀ other ∈ contents.reservations, other.id ≠ reservation.id)
    (hshort : reservation.lines.length ≤ ItemRow.positionLimit)
    (hpositive : ∀ line ∈ reservation.lines, 0 < line.quantity.value) :
    Tables.execute { contents.tables with
        reservations := contents.tables.reservations ++ [reservationCells reservation] }
      (.insertItems (ItemRow.rows reservation)) =
      .ok ((), tables { contents with
        reservations := contents.reservations ++ [reservation]
        items := contents.items ++ ItemRow.rows reservation }) := by
  have hinserted := @foldlM_insertItem { contents.tables with
      reservations := contents.tables.reservations ++ [reservationCells reservation] }
    reservation.id 0 reservation.lines (by omega) hpositive (by simp [reservationCells,
      ReservationCells.ofRow, ReservationRow.ofReservation]) (fun cells hcells hsame => by
      obtain ⟨row, hrow, rfl⟩ := List.mem_map.1 hcells
      obtain ⟨other, hother, hrow⟩ := hsound.exists_of_mem_items hrow
      have hid := (ItemRow.reservation_of_mem_rowsFrom hrow).symm.trans (Option.some.inj hsame)
      exact absurd hid (hfresh other hother))
  simp only [Tables.execute, ItemRow.rows, hinserted]
  simp only [tables, List.map_append, List.map_cons, List.map_nil]
  rfl

theorem execute_settleReservation (hsound : contents.Sound) {first rest : List Reservation}
    {reservation : Reservation}
    (hreservations : contents.reservations = first ++ reservation :: rest) (status : Status)
    (now : Instant) :
    contents.tables.execute (.settleReservation reservation.id status.word now) =
      .ok ((), tables { contents with reservations :=
        first ++ { reservation with status := status, updatedAt := now } :: rest }) := by
  have hids : ((first ++ reservation :: rest).map Reservation.id).Nodup :=
    hreservations ▸ hsound.reservationIds
  have hkey : Tables.checkReservationKey reservation.id
      ((first ++ rest).map reservationCells) = .ok () := by
    have hfree :
        ((first ++ rest).map reservationCells).all (·.id != some reservation.id) = true :=
      Tables.all_ne_of_fresh reservationCells_id (Keys.ne_of_distinct hids)
    rw [Tables.checkReservationKey, hfree]
    rfl
  let settle (row : ReservationCells) (others : List ReservationCells) :
      Except Refusal ReservationCells := do
    Tables.checkStatus status.word
    Tables.checkReservationKey reservation.id others
    return { row with status := some status.word, updatedAt := some now }
  have hsettle : settle (reservationCells reservation) ((first ++ rest).map reservationCells) =
      .ok (reservationCells { reservation with status := status, updatedAt := now }) := by
    simp only [settle, Tables.checkStatus_word, hkey, ok_bind]
    rfl
  have hupdated : contents.tables.settleReservation reservation.id status.word now =
      .ok (tables { contents with reservations :=
        first ++ { reservation with status := status, updatedAt := now } :: rest }) := by
    change (do
      let reservations ← Tables.changeRows
        (fun row : ReservationCells => row.id == some reservation.id) settle []
        (contents.reservations.map reservationCells)
      return { contents.tables with reservations := reservations }) = _
    rw [hreservations, Tables.changeRows_at_key reservationCells_id hids, hsettle]
    simp only [tables, List.map_append, List.map_cons]
    rfl
  simp only [Tables.execute, hupdated]
  rfl

end Contents

end Stockroom.Database
