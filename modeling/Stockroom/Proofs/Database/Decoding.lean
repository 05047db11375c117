import Stockroom.Proofs.Database.Calls

/-!
# Decoded tables

What the rows of the tables stand for, all rows together.  Tables that mirror
a store in memory decode to its maps.
-/

namespace Stockroom.Database

namespace Tables

/-- The records that the rows of the inventory stand for. -/
def records? (tables : Tables) : Option (List StockRecord) := do
  let rows ← tables.inventory.mapM InventoryCells.row?
  (rows.mapM InventoryRow.toRecord).toOption

/-- The reservations that the rows of reservations stand for, each with the rows of its items.  No
item may be left over. -/
def reservations? (tables : Tables) : Option (List Reservation) := do
  let rows ← tables.reservations.mapM ReservationCells.row?
  let items ← (Sorting.sort itemBefore tables.items).mapM ItemCells.row?
  if items.all fun item => (rows.map ReservationRow.id).contains item.reservation then
    (assemble items rows).toOption
  else none

/-- The decoded tables are the maps of a store in memory. -/
structure DecodesTo (tables : Tables) (store : MemoryStore) : Prop where
  inventory : ∃ records ∈ tables.records?,
    (records.map fun record => (record.product, record)).Perm store.inventory.entries
  reservations : ∃ reservations ∈ tables.reservations?,
    (reservations.map fun reservation => (reservation.id, reservation)).Perm
      store.reservations.entries

instance (tables : Tables) (store : MemoryStore) : Decidable (tables.DecodesTo store) :=
  decidable_of_iff
    ((∃ records ∈ tables.records?,
        (records.map fun record => (record.product, record)).Perm store.inventory.entries) ∧
      ∃ reservations ∈ tables.reservations?,
        (reservations.map fun reservation => (reservation.id, reservation)).Perm
          store.reservations.entries)
    ⟨fun ⟨hinventory, hreservations⟩ => ⟨hinventory, hreservations⟩,
      fun hdecodes => ⟨hdecodes.inventory, hdecodes.reservations⟩⟩

end Tables

namespace Contents

variable {contents : Contents}

theorem records?_tables (contents : Contents) :
    contents.tables.records? = some contents.records := by
  rw [Tables.records?, tables, mapM_inventoryRow?]
  change (List.mapM InventoryRow.toRecord (contents.records.map InventoryRow.ofRecord)).toOption = _
  rw [mapM_toRecord]
  rfl

/-- All item rows, as they are listed. -/
theorem sort_items (hsound : contents.Sound) : Sorting.sort Tables.itemBefore contents.tables.items =
    (contents.itemsOf (contents.reservations.map Reservation.id)).map ItemCells.ofRow := by
  have hall : (contents.items.filter fun row =>
      (contents.reservations.map Reservation.id).contains row.reservation) = contents.items := by
    refine List.filter_eq_self.2 fun row hrow => List.contains_iff_mem.2 ?_
    obtain ⟨reservation, hmem, hrow⟩ := hsound.exists_of_mem_items hrow
    rw [ItemRow.reservation_of_mem_rowsFrom hrow]
    exact List.mem_map_of_mem hmem
  rw [itemsOf, hall, Sorting.map_sort ItemRow.before_eq, tables]

theorem reservations?_tables (hsound : contents.Sound) :
    contents.tables.reservations? = some contents.reservations := by
  let ids := contents.reservations.map Reservation.id
  have hknown : (contents.itemsOf ids).all (fun item =>
      ((contents.reservations.map ReservationRow.ofReservation).map ReservationRow.id).contains
        item.reservation) = true := by
    rw [ids_ofReservation, List.all_eq_true]
    exact fun item hitem => List.contains_iff_mem.2 (contents.mem_itemsOf hitem)
  rw [Tables.reservations?, sort_items hsound, mapM_row?]
  change (do
    let rows ← (contents.reservations.map reservationCells).mapM ReservationCells.row?
    if (contents.itemsOf ids).all fun item =>
        (rows.map ReservationRow.id).contains item.reservation then
      (assemble (contents.itemsOf ids) rows).toOption
    else none) = _
  rw [mapM_reservationRow?, Option.bind_eq_bind, Option.bind_some, if_pos hknown,
    assemble_itemsOf hsound (List.Subset.refl _) hsound.reservationIds]
  rfl

theorem Mirrors.decodes {store : MemoryStore} {ids : Set Uuid}
    (hmirrors : contents.Mirrors store ids) : contents.tables.DecodesTo store where
  inventory := by
    refine ⟨contents.records, contents.records?_tables, (hmirrors.perm_records.map _).trans ?_⟩
    refine List.Perm.of_eq ((SortedMap.map_values_eq fun product record hfound => ?_).trans
      (List.map_id _))
    exact Prod.ext (hmirrors.keyed.records product record hfound) rfl
  reservations := by
    refine ⟨contents.reservations, reservations?_tables hmirrors.toSound,
      (hmirrors.perm_reservations.map _).trans ?_⟩
    refine List.Perm.of_eq ((SortedMap.map_values_eq fun id reservation hfound => ?_).trans
      (List.map_id _))
    exact Prod.ext (hmirrors.keyed.reservations id reservation hfound) rfl

end Contents

end Stockroom.Database
