import Stockroom.Proofs.Database.Holdings
import Stockroom.Proofs.Database.Serving
import Stockroom.Proofs.Keys
import Stockroom.Proofs.Store.Effects

/-!
# Tables that mirror a store in memory

Tables mirror a store in memory when they hold its records and reservations,
in whatever order.  Each request for a row is then answered by statements as
it is answered in memory, and leaves tables that mirror the store again.
-/

namespace Stockroom.Database

/-- The contents of tables are those of a store in memory.  All ids are from a set. -/
structure Contents.Mirrors (contents : Contents) (store : MemoryStore) (ids : Set Uuid) : Prop
    extends contents.Sound where
  found : ∀ product, contents.records.find? (·.product == product) =
    store.inventory.find? product
  held : ∀ id, contents.reservations.find? (·.id == id) = store.reservations.find? id
  wholeRecords : ∀ record ∈ contents.records, record.IsWhole ∧ record.id ∈ ids
  wholeReservations : ∀ reservation ∈ contents.reservations,
    reservation.IsWhole ∧ reservation.id ∈ ids

namespace Contents.Mirrors

variable {contents : Contents} {store : MemoryStore} {ids : Set Uuid}

theorem mono {more : Set Uuid} (hmirrors : contents.Mirrors store ids) (hmore : ids ⊆ more) :
    contents.Mirrors store more where
  toSound := hmirrors.toSound
  found := hmirrors.found
  held := hmirrors.held
  wholeRecords record hmem := (hmirrors.wholeRecords record hmem).imp_right (hmore ·)
  wholeReservations reservation hmem :=
    (hmirrors.wholeReservations reservation hmem).imp_right (hmore ·)

theorem empty (ids : Set Uuid) : Contents.empty.Mirrors .empty ids where
  products := List.nodup_nil
  recordIds := List.nodup_nil
  reservationIds := List.nodup_nil
  lines _ hmem := (List.not_mem_nil hmem).elim
  items := .refl _
  found _ := rfl
  held _ := rfl
  wholeRecords _ hmem := (List.not_mem_nil hmem).elim
  wholeReservations _ hmem := (List.not_mem_nil hmem).elim

theorem record_iff (hmirrors : contents.Mirrors store ids) {product : ProductId}
    {record : StockRecord} : store.inventory.find? product = some record ↔
      record ∈ contents.records ∧ record.product = product := by
  rw [← hmirrors.found, Keys.find?_eq_some_iff hmirrors.products]

theorem reservation_iff (hmirrors : contents.Mirrors store ids) {id : Uuid}
    {reservation : Reservation} : store.reservations.find? id = some reservation ↔
      reservation ∈ contents.reservations ∧ reservation.id = id := by
  rw [← hmirrors.held, Keys.find?_eq_some_iff hmirrors.reservationIds]

theorem keyed (hmirrors : contents.Mirrors store ids) : store.Keyed where
  records _ _ hfound := (hmirrors.record_iff.1 hfound).2
  reservations _ _ hfound := (hmirrors.reservation_iff.1 hfound).2

theorem perm_records (hmirrors : contents.Mirrors store ids) :
    contents.records.Perm store.inventory.values := by
  have hkeyed : WorkingCopy.Keyed store.inventory := hmirrors.keyed.records
  refine (List.perm_ext_iff_of_nodup hmirrors.products.of_map hkeyed.distinct.of_map).2
    fun record => ?_
  rw [SortedMap.mem_values_iff]
  constructor
  · intro hmem
    exact ⟨record.product, hmirrors.record_iff.2 ⟨hmem, rfl⟩⟩
  · rintro ⟨product, hfound⟩
    exact (hmirrors.record_iff.1 hfound).1

theorem perm_reservations (hmirrors : contents.Mirrors store ids) :
    contents.reservations.Perm store.reservations.values := by
  refine (List.perm_ext_iff_of_nodup hmirrors.reservationIds.of_map
    hmirrors.keyed.distinct_ids.of_map).2 fun reservation => ?_
  rw [SortedMap.mem_values_iff]
  constructor
  · intro hmem
    exact ⟨reservation.id, hmirrors.reservation_iff.2 ⟨hmem, rfl⟩⟩
  · rintro ⟨id, hfound⟩
    exact (hmirrors.reservation_iff.1 hfound).1

/-! ## Changes -/

/-- A record may take the place of another that it succeeds. -/
theorem replaceRecord {first rest : List StockRecord} {record updated : StockRecord}
    (hmirrors : contents.Mirrors store ids) (hrecords : contents.records = first ++ record :: rest)
    (hsucceeds : Succeeds updated record) (hwhole : updated.IsWhole) :
    Mirrors { contents with records := first ++ updated :: rest }
      { store with inventory := store.inventory.insert updated.product updated } ids := by
  have hproducts : ((first ++ record :: rest).map StockRecord.product).Nodup :=
    hrecords ▸ hmirrors.products
  have hmember : record.id ∈ ids :=
    (hmirrors.wholeRecords record (hrecords ▸ List.mem_append_cons_self)).2
  have hsound := hmirrors.toSound.replaceRecord hrecords hsucceeds.id
    (hsucceeds.product ▸ Keys.ne_of_distinct hproducts)
  refine { hsound with
    found := fun product => ?_
    held := hmirrors.held
    wholeRecords := ?_
    wholeReservations := hmirrors.wholeReservations }
  · rw [SortedMap.find?_insert, Keys.find?_replace hproducts hsucceeds.product, hsucceeds.product,
      ← hrecords, hmirrors.found]
  · intro other hother
    rcases List.mem_append.1 hother with hfirst | hrest
    · exact hmirrors.wholeRecords other (hrecords ▸ List.mem_append_left _ hfirst)
    · rcases List.mem_cons.1 hrest with rfl | hrest
      · exact ⟨hwhole, hsucceeds.id ▸ hmember⟩
      · exact hmirrors.wholeRecords other
          (hrecords ▸ List.mem_append_right _ (List.mem_cons_of_mem _ hrest))

theorem addRecord {record : StockRecord} (hmirrors : contents.Mirrors store ids)
    (hproduct : store.inventory.find? record.product = none) (hid : record.id ∉ ids)
    (hwhole : record.IsWhole) :
    Mirrors { contents with records := contents.records ++ [record] }
      { store with inventory := store.inventory.insert record.product record }
      (insert record.id ids) := by
  have hfreshProduct : ∀ other ∈ contents.records, other.product ≠ record.product := by
    rw [← hmirrors.found] at hproduct
    exact Keys.find?_eq_none_iff.1 hproduct
  have hfreshId : ∀ other ∈ contents.records, other.id ≠ record.id := by
    intro other hother hsame
    exact hid (hsame ▸ (hmirrors.wholeRecords other hother).2)
  have hmore := hmirrors.mono (Set.subset_insert record.id ids)
  refine { hmirrors.toSound.addRecord hfreshId hfreshProduct with
    found := fun product => ?_
    held := hmirrors.held
    wholeRecords := ?_
    wholeReservations := hmore.wholeReservations }
  · rw [SortedMap.find?_insert, Keys.find?_add hfreshProduct, hmirrors.found]
  · intro other hother
    rcases List.mem_append.1 hother with hold | hnew
    · exact (hmirrors.wholeRecords other hold).imp_right (Set.mem_insert_of_mem _ ·)
    · rw [List.mem_singleton.1 hnew]
      exact ⟨hwhole, Set.mem_insert _ _⟩

theorem removeRecord (hmirrors : contents.Mirrors store ids) (product : ProductId) :
    Mirrors { contents with records := contents.records.filter (·.product != product) }
      { store with inventory := store.inventory.erase product } ids where
  toSound := hmirrors.toSound.removeRecord product
  found sought := by
    rw [SortedMap.find?_erase, Keys.find?_remove, hmirrors.found]
  held := hmirrors.held
  wholeRecords record hmem := hmirrors.wholeRecords record (List.mem_of_mem_filter hmem)
  wholeReservations := hmirrors.wholeReservations

theorem addReservation {reservation : Reservation} (hmirrors : contents.Mirrors store ids)
    (hfree : store.reservations.find? reservation.id = none) (hid : reservation.id ∈ ids)
    (hlines : reservation.lines ≠ []) (hshort : reservation.lines.length ≤ ItemRow.positionLimit)
    (hwhole : reservation.IsWhole) :
    Mirrors { contents with
        reservations := contents.reservations ++ [reservation]
        items := contents.items ++ ItemRow.rows reservation }
      { store with reservations := store.reservations.insert reservation.id reservation } ids := by
  have hfresh : ∀ other ∈ contents.reservations, other.id ≠ reservation.id := by
    rw [← hmirrors.held] at hfree
    exact Keys.find?_eq_none_iff.1 hfree
  refine { hmirrors.toSound.addReservation hfresh hlines hshort with
    found := hmirrors.found
    held := fun id => ?_
    wholeRecords := hmirrors.wholeRecords
    wholeReservations := ?_ }
  · rw [SortedMap.find?_insert, Keys.find?_add hfresh, hmirrors.held]
  · intro other hother
    rcases List.mem_append.1 hother with hold | hnew
    · exact hmirrors.wholeReservations other hold
    · rw [List.mem_singleton.1 hnew]
      exact ⟨hwhole, hid⟩

/-- A reservation may be settled in its place. -/
theorem settleReservation {first rest : List Reservation} {reservation : Reservation}
    (hmirrors : contents.Mirrors store ids)
    (hreservations : contents.reservations = first ++ reservation :: rest) (status : Status)
    {now : Instant} (hnow : now.IsWhole) :
    let settled := { reservation with status := status, updatedAt := now }
    Mirrors { contents with reservations := first ++ settled :: rest }
      { store with reservations := store.reservations.insert reservation.id settled } ids := by
  intro settled
  have hids : ((first ++ reservation :: rest).map Reservation.id).Nodup :=
    hreservations ▸ hmirrors.reservationIds
  have hmem : reservation ∈ contents.reservations := hreservations ▸ List.mem_append_cons_self
  refine { hmirrors.toSound.settleReservation hreservations status now with
    found := hmirrors.found
    held := fun id => ?_
    wholeRecords := hmirrors.wholeRecords
    wholeReservations := ?_ }
  · have hsame : settled.id = reservation.id := rfl
    rw [SortedMap.find?_insert, Keys.find?_replace hids hsame, ← hreservations, hmirrors.held]
  · intro other hother
    rcases List.mem_append.1 hother with hfirst | hrest
    · exact hmirrors.wholeReservations other (hreservations ▸ List.mem_append_left _ hfirst)
    · rcases List.mem_cons.1 hrest with rfl | hrest
      · obtain ⟨hwhole, hid⟩ := hmirrors.wholeReservations reservation hmem
        exact ⟨⟨hwhole.expiresAt, hwhole.createdAt, hnow⟩, hid⟩
      · exact hmirrors.wholeReservations other
          (hreservations ▸ List.mem_append_right _ (List.mem_cons_of_mem _ hrest))

end Contents.Mirrors

/-! ## Requests for rows -/

section Rows

variable {now : Instant} {begun : Option Tables} {contents : Contents} {store : MemoryStore}
  {ids : Set Uuid}

theorem mapM_row? (rows : List ItemRow) :
    (rows.map ItemCells.ofRow).mapM ItemCells.row? = some rows := by
  induction rows with
  | nil => rfl
  | cons row rest ih =>
    rw [List.map_cons, List.mapM_cons, ih]
    rfl

/-- A record is locked as it is in memory. -/
theorem yields_lockProduct (hmirrors : contents.Mirrors store ids) (product : ProductId) :
    Yields now (answerRow (.lockProduct product)) begun contents.tables
      ((MemoryStore.answerRow (.lockProduct product) store).1, contents.tables) := by
  refine Yields.bind (Yields.send ⟨fun _ => rfl, fun _ => rfl⟩
    (contents.execute_lockInventory product)) ?_
  simp only [MemoryStore.answerRow, hmirrors.found]
  cases store.inventory.find? product with
  | none => exact Yields.throw _
  | some record =>
    change Yields now (convert (InventoryRow.ofRecord record).toRecord) begun contents.tables _
    rw [InventoryRow.toRecord_ofRecord]
    exact Yields.pure record

/-- A reservation is locked as it is in memory, with its lines. -/
theorem yields_lockReservation (hmirrors : contents.Mirrors store ids) (id : Uuid) :
    Yields now (answerRow (.lockReservation id)) begun contents.tables
      ((MemoryStore.answerRow (.lockReservation id) store).1, contents.tables) := by
  refine Yields.bind (Yields.send ⟨fun _ => rfl, fun _ => rfl⟩
    (contents.execute_lockReservation id)) ?_
  simp only [MemoryStore.answerRow, hmirrors.held]
  cases hfound : store.reservations.find? id with
  | none => exact Yields.throw _
  | some reservation =>
    obtain ⟨hmem, rfl⟩ := hmirrors.reservation_iff.1 hfound
    refine Yields.bind (Yields.pure _) ?_
    refine Yields.bind (Yields.send ⟨fun _ => rfl, fun _ => rfl⟩
      (contents.execute_itemsOf [reservation.id])) ?_
    rw [mapM_row?, Contents.itemsOf_singleton hmirrors.toSound hmem]
    change Yields now (convert ((ReservationRow.ofReservation reservation).toReservation
      (ItemRow.rows reservation))) begun contents.tables _
    rw [ReservationRow.toReservation_rows (hmirrors.lines reservation hmem).1]
    exact Yields.pure reservation

/-- A record is written over one that it succeeds. -/
theorem yields_writeRecord (now : Instant) (begun : Option Tables)
    (hmirrors : contents.Mirrors store ids) {record updated : StockRecord}
    (hfound : store.inventory.find? updated.product = some record)
    (hsucceeds : Succeeds updated record) (hwhole : updated.IsWhole) :
    ∃ after : Contents,
      Yields now (answerRow (.writeRecord updated)) begun contents.tables (.ok (), after.tables) ∧
      after.Mirrors (MemoryStore.answerRow (.writeRecord updated) store).2 ids := by
  obtain ⟨first, rest, hrecords⟩ := List.append_of_mem (hmirrors.record_iff.1 hfound).1
  refine ⟨{ contents with records := first ++ updated :: rest }, ?_,
    hmirrors.replaceRecord hrecords hsucceeds hwhole⟩
  change Yields now (send (.updateInventory (InventoryRow.ofRecord updated).bound)) _ _ _
  rw [InventoryRow.bound_ofRecord hwhole]
  exact Yields.send ⟨fun _ => rfl, fun _ => rfl⟩
    (contents.execute_updateInventory hmirrors.toSound hrecords hsucceeds)

theorem yields_removeProduct (now : Instant) (begun : Option Tables)
    (hmirrors : contents.Mirrors store ids) (product : ProductId) :
    ∃ after : Contents,
      Yields now (answerRow (.removeProduct product)) begun contents.tables (.ok (), after.tables) ∧
      after.Mirrors (MemoryStore.answerRow (.removeProduct product) store).2 ids :=
  ⟨_, Yields.send ⟨fun _ => rfl, fun _ => rfl⟩ (contents.execute_deleteInventory product),
    hmirrors.removeRecord product⟩

/-- A reservation can be added to a store that has none of its id. -/
structure Addable (reservation : Reservation) (store : MemoryStore) (ids : Set Uuid) : Prop where
  free : store.reservations.find? reservation.id = none
  id : reservation.id ∈ ids
  nonempty : reservation.lines ≠ []
  short : reservation.lines.length ≤ ItemRow.positionLimit
  positive : ∀ line ∈ reservation.lines, 0 < line.quantity.value
  whole : reservation.IsWhole

theorem yields_addReservation (now : Instant) (begun : Option Tables)
    (hmirrors : contents.Mirrors store ids) {reservation : Reservation}
    (haddable : Addable reservation store ids) :
    ∃ after : Contents,
      Yields now (answerRow (.addReservation reservation)) begun contents.tables
        (.ok (), after.tables) ∧
      after.Mirrors (MemoryStore.answerRow (.addReservation reservation) store).2 ids := by
  have hfresh : ∀ other ∈ contents.reservations, other.id ≠ reservation.id := by
    have hfree := haddable.free
    rw [← hmirrors.held] at hfree
    exact Keys.find?_eq_none_iff.1 hfree
  refine ⟨_, ?_, hmirrors.addReservation haddable.free haddable.id haddable.nonempty
    haddable.short haddable.whole⟩
  change Yields now (do
    send (.insertReservation (ReservationRow.ofReservation reservation).bound)
    let items ← convert (ItemRow.ofReservation reservation)
    send (.insertItems items)) _ _ _
  rw [ReservationRow.bound_ofReservation haddable.whole, ItemRow.ofReservation_eq haddable.short]
  refine Yields.bind (Yields.send ⟨fun _ => rfl, fun _ => rfl⟩
    (contents.execute_insertReservation hfresh)) ?_
  refine Yields.bind (Yields.pure (ItemRow.rows reservation)) ?_
  exact Yields.send ⟨fun _ => rfl, fun _ => rfl⟩
    (Contents.execute_insertItems hmirrors.toSound hfresh haddable.short haddable.positive)

theorem yields_settleReservation (now : Instant) (begun : Option Tables)
    (hmirrors : contents.Mirrors store ids)
    {reservation : Reservation}
    (hfound : store.reservations.find? reservation.id = some reservation) (status : Status)
    {time : Instant} (htime : time.IsWhole) :
    let settled := { reservation with status := status, updatedAt := time }
    ∃ after : Contents,
      Yields now (answerRow (.settleReservation settled)) begun contents.tables
        (.ok (), after.tables) ∧
      after.Mirrors (MemoryStore.answerRow (.settleReservation settled) store).2 ids := by
  intro settled
  obtain ⟨first, rest, hreservations⟩ :=
    List.append_of_mem (hmirrors.reservation_iff.1 hfound).1
  refine ⟨{ contents with reservations := first ++ settled :: rest }, ?_,
    hmirrors.settleReservation hreservations status htime⟩
  change Yields now (send (.settleReservation reservation.id status.word time.inColumn)) _ _ _
  rw [Instant.inColumn_of_isWhole htime]
  exact Yields.send ⟨fun _ => rfl, fun _ => rfl⟩
    (Contents.execute_settleReservation hmirrors.toSound hreservations status time)

end Rows

end Stockroom.Database
