import Stockroom.Proofs.Database.Mirroring

/-!
# The order of rows

Nothing is promised of the order in which a table keeps its rows.  In whatever
order they come to stand, the tables still mirror the store in memory that they
mirrored before.
-/

namespace Stockroom.Database

/-- The same rows, each table in an order of its own. -/
structure Tables.SameRows (tables other : Tables) : Prop where
  inventory : tables.inventory.Perm other.inventory
  reservations : tables.reservations.Perm other.reservations
  items : tables.items.Perm other.items
  processed : tables.processed.Perm other.processed

/-- The order in which a database comes to keep its rows. -/
structure RowOrder where
  arrange : Tables → Tables
  sameRows : ∀ tables, (arrange tables).SameRows tables

/-- Rows stay where they were put. -/
def RowOrder.kept : RowOrder :=
  ⟨id, fun _ => ⟨.refl _, .refl _, .refl _, .refl _⟩⟩

def arranged (database : Database) (order : RowOrder) : Database :=
  { database with tables := order.arrange database.tables }

variable {tables : Tables} {contents : Contents} {store : MemoryStore} {ids : Set Uuid}

theorem Idle.arranged {database : Database} (hidle : database.Idle tables) (order : RowOrder) :
    (database.arranged order).Idle (order.arrange tables) where
  reachable := hidle.reachable
  sound := hidle.sound
  begun := hidle.begun
  tables := congrArg order.arrange hidle.tables

/-- The order of rows is nothing that tables mirror. -/
theorem Contents.Mirrors.of_sameRows (hmirrors : contents.Mirrors store ids)
    (hrows : tables.SameRows contents.tables) :
    ∃ moved : Contents, tables = moved.tables ∧ moved.Mirrors store ids := by
  obtain ⟨inventory, reservationRows, itemRows, processed⟩ := tables
  obtain ⟨records, rfl, hrecords⟩ := Tables.exists_map_eq_of_perm hrows.inventory
  obtain ⟨reservations, rfl, hreservations⟩ := Tables.exists_map_eq_of_perm hrows.reservations
  obtain ⟨items, rfl, hitems⟩ := Tables.exists_map_eq_of_perm hrows.items
  have hproducts := ((hrecords.map StockRecord.product).nodup_iff).2 hmirrors.products
  have hids := ((hreservations.map Reservation.id).nodup_iff).2 hmirrors.reservationIds
  refine ⟨⟨records, reservations, items, processed⟩, rfl, ⟨hproducts, ?_, hids, ?_, ?_⟩,
    fun product => ?_, fun id => ?_, fun record hmem => ?_, fun reservation hmem => ?_⟩
  · exact ((hrecords.map StockRecord.id).nodup_iff).2 hmirrors.recordIds
  · exact fun reservation hmem => hmirrors.lines reservation (hreservations.mem_iff.1 hmem)
  · exact hitems.trans (hmirrors.items.trans (hreservations.symm.flatMap_right _))
  · rw [Keys.find?_eq_of_perm hrecords hproducts, hmirrors.found]
  · rw [Keys.find?_eq_of_perm hreservations hids, hmirrors.held]
  · exact hmirrors.wholeRecords record (hrecords.mem_iff.1 hmem)
  · exact hmirrors.wholeReservations reservation (hreservations.mem_iff.1 hmem)

end Stockroom.Database
