import Stockroom.Proofs.Database.Editing
import Stockroom.Proofs.Database.Listings

/-!
# Calls of the store in a database

What each call of the store has as its result on an idle database, when the
tables mirror a store in memory: what it has in memory, save for the order in
which a batched lookup lists its records and the overdue reservations of one
deadline come.
-/

namespace Stockroom.Database

variable {now : Instant} {contents : Contents} {store : MemoryStore} {ids : Set Uuid}

/-! ## Rows read back -/

theorem mapM_inventoryRow? (records : List StockRecord) :
    (records.map recordCells).mapM InventoryCells.row? =
      some (records.map InventoryRow.ofRecord) := by
  induction records with
  | nil => rfl
  | cons record rest ih =>
    rw [List.map_cons, List.mapM_cons, ih]
    rfl

theorem mapM_toRecord (records : List StockRecord) :
    (records.map InventoryRow.ofRecord).mapM InventoryRow.toRecord = .ok records := by
  induction records with
  | nil => rfl
  | cons record rest ih =>
    rw [List.map_cons, List.mapM_cons, InventoryRow.toRecord_ofRecord, ih]
    rfl

theorem mapM_reservationRow? (reservations : List Reservation) :
    (reservations.map reservationCells).mapM ReservationCells.row? =
      some (reservations.map ReservationRow.ofReservation) := by
  induction reservations with
  | nil => rfl
  | cons reservation rest ih =>
    rw [List.map_cons, List.mapM_cons, ih]
    rfl

/-- Every reservation gets the rows of its own lines. -/
theorem assemble_eq {items : List ItemRow} {reservations : List Reservation}
    (hdistinct : (reservations.map Reservation.id).Nodup)
    (hlines : ∀ reservation ∈ reservations, reservation.lines ≠ [])
    (hitems : ∀ reservation ∈ reservations,
      items.filter (·.reservation == reservation.id) = ItemRow.rows reservation) :
    assemble items (reservations.map ReservationRow.ofReservation) = .ok reservations := by
  induction reservations generalizing items with
  | nil => rfl
  | cons reservation rest ih =>
    obtain ⟨hfirst, hrest⟩ := List.nodup_cons.1 hdistinct
    obtain ⟨hnonempty, hothers⟩ := List.forall_mem_cons.1 hlines
    obtain ⟨hown, hitems⟩ := List.forall_mem_cons.1 hitems
    have hleft : ∀ other ∈ rest, (items.filter (·.reservation != reservation.id)).filter
        (·.reservation == other.id) = ItemRow.rows other := by
      intro other hother
      rw [List.filter_filter, ← hitems other hother]
      refine List.filter_congr fun row _ => ?_
      rw [Bool.and_eq_left_iff_imp]
      intro hsame
      rw [bne_iff_ne, beq_iff_eq.1 hsame]
      exact fun heq => hfirst (heq ▸ List.mem_map_of_mem hother)
    have hid : (ReservationRow.ofReservation reservation).id = reservation.id := rfl
    rw [List.map_cons, assemble, hid, hown, ReservationRow.toReservation_rows hnonempty,
      ih hrest hothers hleft]
    rfl

theorem ids_ofReservation (reservations : List Reservation) :
    (reservations.map ReservationRow.ofReservation).map ReservationRow.id =
      reservations.map Reservation.id := by
  rw [List.map_map]
  rfl

/-- The items of chosen reservations make up these reservations. -/
theorem Contents.assemble_itemsOf (hsound : contents.Sound) {chosen : List Reservation}
    (hchosen : chosen ⊆ contents.reservations) (hdistinct : (chosen.map Reservation.id).Nodup) :
    assemble (contents.itemsOf (chosen.map Reservation.id))
      (chosen.map ReservationRow.ofReservation) = .ok chosen := by
  apply assemble_eq hdistinct
  · exact fun reservation hmem => (hsound.lines reservation (hchosen hmem)).1
  · exact fun reservation hmem => filter_itemsOf hsound (hchosen hmem) (List.mem_map_of_mem hmem)

theorem yields_loadReservations (hmirrors : contents.Mirrors store ids)
    {reservations : List Reservation} (hstored : reservations ⊆ contents.reservations)
    (hdistinct : (reservations.map Reservation.id).Nodup) :
    Yields now (loadReservations (reservations.map ReservationRow.ofReservation)) none
      contents.tables (.ok reservations, contents.tables) := by
  rw [loadReservations, ids_ofReservation]
  refine Yields.bind (Yields.send ⟨fun _ => rfl, fun _ => rfl⟩ (contents.execute_itemsOf _)) ?_
  rw [mapM_row?]
  change Yields now (convert (assemble _ _)) none contents.tables _
  rw [Contents.assemble_itemsOf hmirrors.toSound hstored hdistinct]
  exact Yields.pure reservations

/-! ## Calls that read -/

theorem answers_find (hmirrors : contents.Mirrors store ids) (product : ProductId) :
    Answers now (find product) contents.tables
      (.ok (store.inventory.find? product), contents.tables) := by
  refine Answers.connected (Yields.bind (Yields.send ⟨fun _ => rfl, fun _ => rfl⟩
    (contents.execute_findInventory product)) ?_)
  rw [hmirrors.found]
  cases store.inventory.find? product with
  | none => exact Yields.pure _
  | some record =>
    refine Yields.bind (Yields.pure (InventoryRow.ofRecord record)) ?_
    refine Yields.bind ?_ (Yields.pure (some record))
    rw [InventoryRow.toRecord_ofRecord]
    exact Yields.pure record

/-- A batched lookup lists the records of its products in the order of the rows. -/
theorem answers_findMany (products : List ProductId) :
    Answers now (findMany products) contents.tables
      (.ok (contents.records.filter fun record => decide (record.product ∈ products)),
        contents.tables) := by
  cases products with
  | nil =>
    have hnone : (contents.records.filter fun record => decide (record.product ∈ [])) = [] := by
      simp
    rw [hnone]
    exact Answers.pure []
  | cons product rest =>
    refine Answers.connected (Yields.bind (Yields.send ⟨fun _ => rfl, fun _ => rfl⟩
      (contents.execute_inventoryAmong (product :: rest))) ?_)
    rw [mapM_inventoryRow?]
    refine Yields.bind (Yields.pure _) ?_
    rw [mapM_toRecord]
    exact Yields.pure _

theorem answers_findReservation (hmirrors : contents.Mirrors store ids) (id : Uuid) :
    Answers now (findReservation id) contents.tables
      (.ok (store.reservations.find? id), contents.tables) := by
  refine Answers.connected (Yields.bind (Yields.send ⟨fun _ => rfl, fun _ => rfl⟩
    (contents.execute_findReservation id)) ?_)
  rw [hmirrors.held]
  cases hfound : store.reservations.find? id with
  | none => exact Yields.pure _
  | some reservation =>
    have hmem := (hmirrors.reservation_iff.1 hfound).1
    have hloaded : Yields now (loadReservations [ReservationRow.ofReservation reservation]) none
        contents.tables (.ok [reservation], contents.tables) :=
      @yields_loadReservations now contents store ids hmirrors [reservation]
        (List.cons_subset.2 ⟨hmem, List.nil_subset _⟩) (List.nodup_singleton _)
    refine Yields.bind (Yields.pure (ReservationRow.ofReservation reservation)) ?_
    exact Yields.bind hloaded (Yields.pure (some reservation))

theorem overdueAmong_subset (asOf : Instant) (reservations : List Reservation) (limit : Nat) :
    (overdueAmong asOf reservations).take limit ⊆ reservations := by
  intro reservation hmem
  have hlisted := List.mem_of_mem_take hmem
  rw [overdueAmong, Sorting.mem_sort] at hlisted
  exact List.mem_of_mem_filter hlisted

theorem nodup_overdueAmong (asOf : Instant) {reservations : List Reservation}
    (hdistinct : (reservations.map Reservation.id).Nodup) (limit : Nat) :
    (((overdueAmong asOf reservations).take limit).map Reservation.id).Nodup := by
  refine ((List.take_sublist _ _).map _).nodup ?_
  rw [overdueAmong, ((Sorting.perm_sort _ _).map Reservation.id).nodup_iff]
  exact (List.filter_sublist.map _).nodup hdistinct

/-- Overdue reservations come in the order of their deadlines, those of one deadline in the order
of their rows. -/
theorem answers_overdue (hmirrors : contents.Mirrors store ids) {asOf : Instant}
    (hwhole : asOf.IsWhole) (limit : Nat) :
    Answers now (overdue asOf limit) contents.tables
      (.ok ((overdueAmong asOf contents.reservations).take limit), contents.tables) := by
  have hexecute := contents.execute_overdueReservations asOf limit
  rw [← Instant.inColumn_of_isWhole hwhole] at hexecute
  refine Answers.connected (Yields.bind (Yields.send ⟨fun _ => rfl, fun _ => rfl⟩ hexecute) ?_)
  rw [Instant.inColumn_of_isWhole hwhole, mapM_reservationRow?]
  refine Yields.bind (Yields.pure _) ?_
  exact yields_loadReservations hmirrors (overdueAmong_subset asOf contents.reservations limit)
    (nodup_overdueAmong asOf hmirrors.reservationIds limit)

theorem offsetColumn_of_lt {offset : Nat} (hoffset : offset < 9223372036854775808) :
    offsetColumn offset = offset :=
  Int64.toInt_ofInt_of_le (by omega) (by omega)

theorem answers_lowStock (hmirrors : contents.Mirrors store ids) (threshold : Option Quantity)
    {request : PageRequest} (hoffset : request.offset < 9223372036854775808) :
    Answers now (lowStock threshold request) contents.tables
      (.ok (Page.ofListing (store.lowStockListing threshold) request), contents.tables) := by
  have hlisting : store.lowStockListing threshold = lowAmong threshold contents.records :=
    (lowAmong_eq_of_perm threshold hmirrors.perm_records hmirrors.products).symm
  refine Answers.connected (Yields.bind (Yields.send ⟨fun _ => rfl, fun _ => rfl⟩
    (contents.execute_countLowStock threshold)) ?_)
  rw [offsetColumn_of_lt hoffset]
  refine Yields.bind (Yields.send ⟨fun _ => rfl, fun _ => rfl⟩
    (contents.execute_lowStock threshold request.limit request.offset)) ?_
  rw [mapM_inventoryRow?, hlisting]
  refine Yields.bind (Yields.pure _) ?_
  rw [mapM_toRecord]
  exact Yields.bind (Yields.pure _) (Yields.pure _)

/-! ## Calls that change rows -/

/-- A new record gets a row, unless its product has one. -/
theorem answers_create (now : Instant) (hmirrors : contents.Mirrors store ids)
    {record : StockRecord} (hid : record.id ∉ ids) (hwhole : record.IsWhole) :
    ∃ after : Contents,
      Answers now (create record) contents.tables ((store.create record).1, after.tables) ∧
      after.Mirrors (store.create record).2 (insert record.id ids) := by
  have hids : ∀ other ∈ contents.records, other.id ≠ record.id := by
    intro other hother hsame
    exact hid (hsame ▸ (hmirrors.wholeRecords other hother).2)
  cases hfound : store.inventory.find? record.product with
  | some other =>
    obtain ⟨hmem, hproduct⟩ := hmirrors.record_iff.1 hfound
    have hcreate : store.create record = (.error (.productExists record.product), store) := by
      rw [MemoryStore.create, SortedMap.contains, hfound]
      rfl
    rw [hcreate]
    refine ⟨contents, ?_, hmirrors.mono (Set.subset_insert _ _)⟩
    have hrefused := contents.execute_insertInventory_taken hids hmem hproduct
    rw [← InventoryRow.bound_ofRecord hwhole] at hrefused
    exact Answers.connected (Yields.bind
      (Yields.trySend_refused ⟨fun _ => rfl, fun _ => rfl⟩ hrefused) (Yields.throw _))
  | none =>
    have hcreate : store.create record = (.ok record,
        { store with inventory := store.inventory.insert record.product record }) := by
      rw [MemoryStore.create, SortedMap.contains, hfound]
      rfl
    rw [hcreate]
    refine ⟨_, ?_, hmirrors.addRecord hfound hid hwhole⟩
    have hproducts : ∀ other ∈ contents.records, other.product ≠ record.product := by
      rw [← hmirrors.found] at hfound
      exact Keys.find?_eq_none_iff.1 hfound
    have hinserted := contents.execute_insertInventory hids hproducts
    have hsent : Yields now (trySend (.insertInventory (InventoryRow.ofRecord record).bound)) none
        contents.tables (.ok (.ok (InventoryRow.ofRecord record)),
          Contents.tables { contents with records := contents.records ++ [record] }) := by
      rw [InventoryRow.bound_ofRecord hwhole]
      exact Yields.trySend ⟨fun _ => rfl, fun _ => rfl⟩ hinserted
    refine Answers.connected (Yields.bind hsent ?_)
    change Yields now (convert (InventoryRow.ofRecord record).toRecord) _ _ _
    rw [InventoryRow.toRecord_ofRecord]
    exact Yields.pure record

theorem answers_change (now : Instant) (lockTimeout : Nat) (hmirrors : contents.Mirrors store ids)
    (product : ProductId) {edit : StockRecord → Except Violation StockRecord}
    (hedit : ∀ record updated, edit record = .ok updated → Continues updated record) :
    ∃ after : Contents,
      Answers now (transact lockTimeout (UnitOfWork.change product edit)) contents.tables
        ((store.perform (UnitOfWork.change product edit)).1, after.tables) ∧
      after.Mirrors (store.perform (UnitOfWork.change product edit)).2 ids := by
  refine answers_transact now lockTimeout (@change_edits none product edit hedit)
    (fun error hfailed => ?_) hmirrors fun _ hadded => (nomatch hadded)
  rcases store.change_cases product edit with ⟨_, heq⟩ | ⟨_, _, _, _, heq⟩
  · rw [heq]
  · rw [heq] at hfailed
    cases hfailed

theorem answers_delete (now : Instant) (lockTimeout : Nat) (hmirrors : contents.Mirrors store ids)
    (product : ProductId) :
    ∃ after : Contents,
      Answers now (transact lockTimeout (UnitOfWork.delete product)) contents.tables
        ((store.perform (UnitOfWork.delete product)).1, after.tables) ∧
      after.Mirrors (store.perform (UnitOfWork.delete product)).2 ids := by
  refine answers_transact now lockTimeout (@delete_edits none product)
    (fun error hfailed => ?_) hmirrors fun _ hadded => (nomatch hadded)
  rw [MemoryStore.perform_delete] at hfailed ⊢
  cases hfound : store.inventory.find? product with
  | none => rfl
  | some record =>
    rw [hfound] at hfailed
    dsimp only at hfailed ⊢
    split at hfailed
    · rename_i hreserved
      rw [if_pos hreserved]
    · cases hfailed

theorem answers_reserve (now : Instant) (lockTimeout : Nat)
    (hmirrors : contents.Mirrors store ids) {reservation : Reservation}
    (hnew : reservation.IsNew) (hid : reservation.id ∉ ids)
    (hshort : reservation.lines.length ≤ ItemRow.positionLimit) (hwhole : reservation.IsWhole) :
    ∃ after : Contents,
      Answers now (transact lockTimeout (UnitOfWork.reserve reservation)) contents.tables
        ((store.perform (UnitOfWork.reserve reservation)).1, after.tables) ∧
      after.Mirrors (store.perform (UnitOfWork.reserve reservation)).2
        (insert reservation.id ids) := by
  have hfree : store.reservations.find? reservation.id = none := by
    cases hfound : store.reservations.find? reservation.id with
    | none => rfl
    | some other =>
      obtain ⟨hmem, hsame⟩ := hmirrors.reservation_iff.1 hfound
      exact absurd (hsame ▸ (hmirrors.wholeReservations other hmem).2) hid
  have haddable : Addable reservation store (insert reservation.id ids) :=
    ⟨hfree, Set.mem_insert _ _, hnew.consolidated.nonempty, hshort, hnew.consolidated.positive,
      hwhole⟩
  refine answers_transact now lockTimeout (reserve_edits hwhole.createdAt)
    (fun error hfailed => ?_) (hmirrors.mono (Set.subset_insert _ _)) fun added hadded => ?_
  · rcases MemoryStore.reserve_cases hmirrors.keyed hnew.consolidated.distinct with
      ⟨_, hperform⟩ | ⟨after, hperform, _⟩
    · rw [hperform]
    · rw [hperform] at hfailed
      cases hfailed
  · cases hadded
    exact haddable

theorem answers_resolve (now : Instant) (lockTimeout : Nat)
    (hmirrors : contents.Mirrors store ids) (id : Uuid) (resolution : Resolution) {time : Instant}
    (hwhole : time.IsWhole) :
    ∃ after : Contents,
      Answers now (transact lockTimeout (UnitOfWork.resolve id resolution time)) contents.tables
        ((store.perform (UnitOfWork.resolve id resolution time)).1, after.tables) ∧
      after.Mirrors (store.perform (UnitOfWork.resolve id resolution time)).2 ids := by
  refine answers_transact now lockTimeout (@resolve_edits time none id resolution hwhole)
    (fun error hfailed => ?_) hmirrors fun _ hadded => (nomatch hadded)
  rcases store.resolve_writes id resolution time with
    ⟨_, heq⟩ | ⟨_, _, _, heq⟩ | ⟨_, _, _, _, _, _, _, _, heq⟩
  · rw [heq]
  · rw [heq]
  · rw [heq] at hfailed
    cases hfailed

end Stockroom.Database

namespace Stockroom

open Database

/-- A call that is answered alike by a store in memory and by one in a database whose ids are from
a set: what it adds is new and has an id of its own, and its times are whole. -/
def StoreCall.Fits (ids : Set Uuid) : StoreCall → Prop
  | create record => record.id ∉ ids ∧ record.IsWhole ∧
      ∃ id product initial threshold now,
        record = StockRecord.create id product initial threshold now
  | reserve reservation => reservation.id ∉ ids ∧ reservation.IsNew ∧ reservation.IsWhole ∧
      reservation.lines.length ≤ ItemRow.positionLimit
  | adjust _ _ now | setThreshold _ _ now | resolve _ _ now => now.IsWhole
  | lowStock _ request => request.offset < 9223372036854775808
  | find _ | delete _ | findReservation _ => True
  | findMany _ | overdue _ _ | findProcessed _ | recordProcessed _ => False

/-- The ids that a store may have after a call. -/
def StoreCall.idsAfter (ids : Set Uuid) : StoreCall → Set Uuid
  | create record => insert record.id ids
  | reserve reservation => insert reservation.id ids
  | _ => ids

theorem StoreCall.Fits.anti {call : StoreCall} {ids fewer : Set Uuid} (hfits : call.Fits ids)
    (hfewer : fewer ⊆ ids) : call.Fits fewer := by
  cases call with
  | create record | reserve reservation => exact ⟨fun hmem => hfits.1 (hfewer hmem), hfits.2⟩
  | _ => exact hfits

theorem StoreCall.Fits.isIssued {call : StoreCall} {contents : Contents} {store : MemoryStore}
    {ids : Set Uuid} (hmirrors : contents.Mirrors store ids) (hfits : call.Fits ids) :
    call.IsIssued store := by
  cases call with
  | create record => exact hfits.2.2
  | reserve reservation =>
    refine ⟨hfits.2.1, ?_⟩
    cases hfound : store.reservations.find? reservation.id with
    | none => rfl
    | some found =>
      rw [← hmirrors.held] at hfound
      have hsame : found.id = reservation.id := eq_of_beq (List.find?_some hfound :)
      have hid := (hmirrors.wholeReservations found (List.mem_of_find?_eq_some hfound)).2
      exact absurd (hsame ▸ hid) hfits.1
  | _ => exact trivial

/-- A fitting call has the result that it has in memory, and the tables keep mirroring the store. -/
theorem Database.answers_call (now : Instant) (lockTimeout : Nat) {contents : Contents}
    {store : MemoryStore} {ids : Set Uuid} (hmirrors : contents.Mirrors store ids)
    {call : StoreCall} (hfits : call.Fits ids) :
    ∃ after : Contents,
      Answers now (Database.call lockTimeout call) contents.tables
        ((MemoryStore.answer call store).1, after.tables) ∧
      after.Mirrors (MemoryStore.answer call store).2 (call.idsAfter ids) := by
  cases call with
  | create record => exact answers_create now hmirrors hfits.1 hfits.2.1
  | find product => exact ⟨contents, answers_find hmirrors product, hmirrors⟩
  | adjust product adjustment time =>
    exact answers_change now lockTimeout hmirrors product
      fun _ _ hadjust => .of_editedAt hfits (.of_adjust hadjust)
  | setThreshold product threshold time =>
    refine answers_change now lockTimeout hmirrors product fun record updated hupdated => ?_
    cases hupdated
    exact .of_editedAt hfits (.of_setThreshold record threshold time)
  | delete product => exact answers_delete now lockTimeout hmirrors product
  | lowStock threshold request =>
    exact ⟨contents, answers_lowStock hmirrors threshold hfits, hmirrors⟩
  | reserve reservation =>
    obtain ⟨hid, hnew, hwhole, hshort⟩ := hfits
    exact answers_reserve now lockTimeout hmirrors hnew hid hshort hwhole
  | resolve id resolution time => exact answers_resolve now lockTimeout hmirrors id resolution hfits
  | findReservation id => exact ⟨contents, answers_findReservation hmirrors id, hmirrors⟩
  | findMany _ | overdue _ _ | findProcessed _ | recordProcessed _ => exact hfits.elim

end Stockroom
