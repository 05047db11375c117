import Stockroom.Proofs.Database.ReadBack

/-!
# Reservations out of mixed rows

The rows of reservations and those of their lines stand in two tables, in any
order.  Loading the items of some reservations puts each one back together
with its own lines in their order.  A row with a status that is unknown, or
without an item, is never put together, and storage is to blame for that.
-/

namespace Stockroom.Database

variable {now : Instant} {begun : Option Tables} {tables : Tables} {database : Database}

/-! ## Rows that are put together -/

/-- Rows of stored reservations are the rows of a choice among them. -/
theorem ReservationRow.exists_chosen {stored : List Reservation} {rows : List ReservationRow}
    (hrows : ∀ row ∈ rows, row ∈ stored.map ofReservation) :
    ∃ chosen, chosen ⊆ stored ∧ chosen.map ofReservation = rows := by
  induction rows with
  | nil => exact ⟨[], List.nil_subset _, rfl⟩
  | cons row rest ih =>
    obtain ⟨hrow, hrest⟩ := List.forall_mem_cons.1 hrows
    obtain ⟨reservation, hmem, rfl⟩ := List.mem_map.1 hrow
    obtain ⟨chosen, hchosen, rfl⟩ := ih hrest
    exact ⟨reservation :: chosen, List.cons_subset.2 ⟨hmem, hchosen⟩, rfl⟩

/-- The rows of reservations and of their lines, put together in two tables in any order. -/
structure Tables.Mix (tables : Tables) (stored : List Reservation) : Prop where
  reservations : tables.reservations.Perm
    ((stored.map ReservationRow.ofReservation).map ReservationCells.ofRow)
  items : ∃ rows, stored.mapM ItemRow.ofReservation = .ok rows ∧
    tables.items.Perm (rows.flatten.map ItemCells.ofRow)

theorem Tables.Mix.mem_rows {stored : List Reservation} (hmix : tables.Mix stored)
    {row : ReservationRow} (hrow : ReservationCells.ofRow row ∈ tables.reservations) :
    row ∈ stored.map ReservationRow.ofReservation := by
  obtain ⟨other, hother, hsame⟩ := List.mem_map.1 (hmix.reservations.mem_iff.1 hrow)
  have hread : some other = some row := congrArg ReservationCells.row? hsame
  exact Option.some.inj hread ▸ hother

theorem ItemRow.mapM_ofReservation {stored : List Reservation}
    (hshort : ∀ reservation ∈ stored, reservation.lines.length ≤ positionLimit) :
    stored.mapM ofReservation = .ok (stored.map rows) :=
  mapM_eq_ok_iff.2 (List.forall₂_map_right_iff.2
    (List.forall₂_same.2 fun reservation hmem => ofReservation_eq (hshort reservation hmem)))

/-- Reservations whose positions can be told apart can be put into tables. -/
theorem Tables.exists_mix {stored : List Reservation}
    (hshort : ∀ reservation ∈ stored, reservation.lines.length ≤ ItemRow.positionLimit) :
    ∃ tables : Tables, tables.Mix stored :=
  ⟨{ inventory := []
     reservations := (stored.map ReservationRow.ofReservation).map ReservationCells.ofRow
     items := (stored.map ItemRow.rows).flatten.map ItemCells.ofRow
     processed := [] },
    ⟨.refl _, _, ItemRow.mapM_ofReservation hshort, .refl _⟩⟩

/-- Each of the reservations comes back with its own lines. -/
theorem perform_loadReservations_of_mix (hstands : database.Stands begun tables)
    {stored chosen : List Reservation} (hmix : tables.Mix stored)
    (hdistinct : (stored.map Reservation.id).Nodup)
    (hlines : ∀ reservation ∈ stored, reservation.lines ≠ [] ∧
      reservation.lines.length ≤ ItemRow.positionLimit)
    (hchosen : chosen ⊆ stored) (honce : chosen.Nodup) :
    ∃ last, last.Stands begun tables ∧
      perform now (loadReservations (chosen.map ReservationRow.ofReservation)) database =
        (.ok chosen, last) := by
  obtain ⟨rows, hrows, hitems⟩ := hmix.items
  rw [ItemRow.mapM_ofReservation fun reservation hmem => (hlines reservation hmem).2] at hrows
  cases hrows
  obtain ⟨items, hcells, hitems⟩ := Tables.exists_map_eq_of_perm hitems
  let contents : Contents := ⟨[], stored, items, []⟩
  have hsound : contents.Sound := ⟨List.nodup_nil, List.nodup_nil, hdistinct, hlines, hitems⟩
  have hids : (chosen.map Reservation.id).Nodup := honce.map_on fun left hleft right hright =>
    List.inj_on_of_nodup_map hdistinct (hchosen hleft) (hchosen hright)
  have hexecute : tables.execute (.itemsOf (chosen.map Reservation.id)) =
      .ok ((contents.itemsOf (chosen.map Reservation.id)).map ItemCells.ofRow, tables) := by
    rw [← contents.sort_filter_items, ← hcells]
    rfl
  obtain ⟨last, hlast, hread⟩ := @perform_read_bind _ now _ _ _ hstands _
    ⟨fun _ => rfl, fun _ => rfl⟩ rfl _ hexecute fun items => do
      convert (assemble (← readRows (items.mapM ItemCells.row?))
        (chosen.map ReservationRow.ofReservation))
  refine ⟨last, hlast, ?_⟩
  rw [loadReservations, ids_ofReservation]
  refine hread.trans ?_
  rw [mapM_row?]
  change perform now (convert (assemble _ _)) last = _
  rw [Contents.assemble_itemsOf hsound hchosen hids]
  rfl

/-! ## Rows that are not -/

section Refusing

variable {text column : String} {value : Int32} {item : ItemRow} {items : List ItemRow}
  {row : ReservationRow} {rows : List ReservationRow} {error : StockError}

theorem kind_of_productColumn (herror : productColumn text = .error error) :
    error.kind = .storageFailure := by
  obtain ⟨_, _, rfl⟩ := mapError_eq_error_iff.1 herror
  rfl

theorem kind_of_quantityColumn (herror : quantityColumn column value = .error error) :
    error.kind = .storageFailure := by
  obtain ⟨_, _, rfl⟩ := mapError_eq_error_iff.1 herror
  rfl

theorem kind_of_statusColumn (herror : statusColumn text = .error error) :
    error.kind = .storageFailure := by
  rw [statusColumn] at herror
  split at herror
  · cases herror
  · cases herror
    rfl

theorem ItemRow.kind_of_toLine (herror : item.toLine = .error error) :
    error.kind = .storageFailure := by
  rcases bind_eq_error_iff.1 herror with hproduct | ⟨_, _, herror⟩
  · exact kind_of_productColumn hproduct
  rcases bind_eq_error_iff.1 herror with hquantity | ⟨_, _, hdone⟩
  · exact kind_of_quantityColumn hquantity
  · cases hdone

/-- Storage is to blame for whatever is wrong with the rows of a reservation. -/
theorem ReservationRow.kind_of_toReservation (herror : row.toReservation items = .error error) :
    error.kind = .storageFailure := by
  rcases bind_eq_error_iff.1 herror with hstatus | ⟨_, _, herror⟩
  · exact kind_of_statusColumn hstatus
  rcases bind_eq_error_iff.1 herror with hlines | ⟨_, _, herror⟩
  · obtain ⟨item, _, hitem⟩ := exists_of_mapM_error hlines
    exact ItemRow.kind_of_toLine hitem
  split at herror
  · cases herror
    rfl
  · cases herror

theorem ReservationRow.sound_of_toReservation {reservation : Reservation}
    (hread : row.toReservation items = .ok reservation) :
    (∃ status, Status.ofWord? row.status = some status) ∧ items ≠ [] := by
  obtain ⟨status, hstatus, hread⟩ := bind_eq_ok_iff.1 hread
  obtain ⟨lines, hlines, hread⟩ := bind_eq_ok_iff.1 hread
  constructor
  · rw [statusColumn] at hstatus
    split at hstatus
    · exact ⟨_, ‹_›⟩
    · cases hstatus
  · rintro rfl
    cases hlines
    cases hread

theorem ReservationRow.toReservation_refuses
    (hlacks : Status.ofWord? row.status = none ∨ items = []) :
    ∃ error, row.toReservation items = .error error ∧ error.kind = .storageFailure := by
  cases hread : row.toReservation items with
  | error error => exact ⟨error, rfl, kind_of_toReservation hread⟩
  | ok reservation =>
    obtain ⟨⟨status, hstatus⟩, hitems⟩ := sound_of_toReservation hread
    rcases hlacks with hunknown | hnone
    · rw [hunknown] at hstatus
      cases hstatus
    · exact absurd hnone hitems

theorem kind_of_assemble (herror : assemble items rows = .error error) :
    error.kind = .storageFailure := by
  induction rows generalizing items with
  | nil => cases herror
  | cons row rest ih =>
    rcases bind_eq_error_iff.1 herror with hrow | ⟨_, _, herror⟩
    · exact ReservationRow.kind_of_toReservation hrow
    rcases bind_eq_error_iff.1 herror with hrest | ⟨_, _, hdone⟩
    · exact ih hrest
    · cases hdone

theorem sound_of_assemble {reservations : List Reservation}
    (hassemble : assemble items rows = .ok reservations) (hmem : row ∈ rows) :
    (∃ status, Status.ofWord? row.status = some status) ∧
      ∃ item ∈ items, item.reservation = row.id := by
  induction rows generalizing items reservations with
  | nil => cases hmem
  | cons first rest ih =>
    obtain ⟨reservation, hfirst, hassemble⟩ := bind_eq_ok_iff.1 hassemble
    obtain ⟨others, hrest, _⟩ := bind_eq_ok_iff.1 hassemble
    rcases List.mem_cons.1 hmem with rfl | hmem
    · obtain ⟨hstatus, hitems⟩ := ReservationRow.sound_of_toReservation hfirst
      obtain ⟨item, hitem⟩ := List.exists_mem_of_ne_nil _ hitems
      obtain ⟨hitem, hsame⟩ := List.mem_filter.1 hitem
      exact ⟨hstatus, item, hitem, beq_iff_eq.1 hsame⟩
    · obtain ⟨hstatus, item, hitem, hsame⟩ := ih hrest hmem
      exact ⟨hstatus, item, List.mem_of_mem_filter hitem, hsame⟩

theorem ItemCells.eq_of_row? {cells : ItemCells} (hread : cells.row? = some item) :
    cells = .ofRow item := by
  obtain ⟨reservation, position, product, quantity⟩ := cells
  cases reservation <;> cases position <;> cases product <;> cases quantity <;> cases hread
  rfl

theorem ItemCells.eq_of_mapM_row? {cells : List ItemCells}
    (hread : cells.mapM ItemCells.row? = some items) : cells = items.map .ofRow := by
  induction cells generalizing items with
  | nil =>
    cases hread
    rfl
  | cons first rest ih =>
    rw [List.mapM_cons] at hread
    obtain ⟨item, hfirst, hread⟩ := Option.bind_eq_some_iff.1 hread
    obtain ⟨others, hrest, hdone⟩ := Option.bind_eq_some_iff.1 hread
    cases hdone
    rw [List.map_cons, eq_of_row? hfirst, ih hrest]

/-- No reservation is made up for a row that lacks a status or items. -/
theorem perform_loadReservations_refuses (hstands : database.Stands begun tables)
    (hmem : row ∈ rows) (hlacks : Status.ofWord? row.status = none ∨
      ∀ cells ∈ tables.items, cells.reservation ≠ some row.id) :
    ∃ error last, last.Stands begun tables ∧
      perform now (loadReservations rows) database = (.error error, last) ∧
        error.kind = .storageFailure := by
  let cells := Sorting.sort Tables.itemBefore (tables.items.filter
    fun cells => cells.reservation.any (rows.map ReservationRow.id).contains)
  have hexecute : tables.execute (.itemsOf (rows.map ReservationRow.id)) =
      .ok (cells, tables) := rfl
  obtain ⟨last, hlast, hread⟩ := @perform_read_bind _ now _ _ _ hstands _
    ⟨fun _ => rfl, fun _ => rfl⟩ rfl _ hexecute fun items => do
      convert (assemble (← readRows (items.mapM ItemCells.row?)) rows)
  change perform now (loadReservations rows) database = _ at hread
  rw [hread]
  cases hitems : cells.mapM ItemCells.row? with
  | none => exact ⟨_, last, hlast, rfl, rfl⟩
  | some items =>
    cases hassemble : assemble items rows with
    | error error =>
      refine ⟨error, last, hlast, ?_, kind_of_assemble hassemble⟩
      change perform now (convert (assemble items rows)) last = _
      rw [hassemble]
      rfl
    | ok reservations =>
      obtain ⟨⟨status, hstatus⟩, item, hitem, hsame⟩ := sound_of_assemble hassemble hmem
      rcases hlacks with hunknown | hnone
      · rw [hunknown] at hstatus
        cases hstatus
      · have hcell : ItemCells.ofRow item ∈ cells := by
          rw [ItemCells.eq_of_mapM_row? hitems]
          exact List.mem_map_of_mem hitem
        rw [Sorting.mem_sort] at hcell
        exact absurd (congrArg some hsame) (hnone _ (List.mem_of_mem_filter hcell))

end Refusing

end Stockroom.Database
