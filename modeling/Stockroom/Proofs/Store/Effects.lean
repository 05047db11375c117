import Stockroom.Proofs.Store.Perform

/-!
# Effects of calls

What each call of the store in memory leaves behind, in terms of lookups.  A
call that changes stock either fails and changes nothing, or changes exactly
the records of the products that it names.
-/

namespace Stockroom

namespace Reservation

/-- The reservation after a resolution has been applied to it. -/
def resolved (reservation : Reservation) (resolution : Resolution) (now : Instant) : Reservation :=
  { reservation with status := resolution.status, updatedAt := now }

theorem isPending_resolved (reservation : Reservation) (resolution : Resolution)
    (now : Instant) : (reservation.resolved resolution now).isPending = false := by
  cases resolution <;> rfl

/-- Whether the deadline lets a pending reservation be resolved this way. -/
def permits (reservation : Reservation) (resolution : Resolution) (now : Instant) : Bool :=
  match resolution with
  | .confirm => !reservation.isExpired now
  | .release => true
  | .expire => reservation.isExpired now

/-- Why the deadline forbids a resolution. -/
def deadlineViolation : Resolution → Violation
  | .confirm => .reservationExpired
  | .release | .expire => .reservationNotDue

theorem isTerminal_eq (reservation : Reservation) :
    reservation.status.isTerminal = !reservation.isPending := rfl

theorem status_eq_pending {reservation : Reservation} (hpending : reservation.isPending = true) :
    reservation.status = .pending := by
  simpa [isPending] using hpending

theorem resolve_pending {reservation : Reservation} (hpending : reservation.isPending = true)
    (resolution : Resolution) (now : Instant) :
    reservation.resolve resolution now =
      if reservation.permits resolution now then
        .ok (.applied, reservation.resolved resolution now)
      else .error (deadlineViolation resolution) := by
  have hstatus := status_eq_pending hpending
  cases resolution with
  | confirm =>
    cases hexpired : reservation.isExpired now <;>
      simp [resolve, confirm, hstatus, hexpired, permits, settle, resolved, deadlineViolation,
        Resolution.status]
  | release =>
    simp [resolve, release, hpending, permits, settle, resolved, Resolution.status]
  | expire =>
    cases hexpired : reservation.isExpired now <;>
      simp [resolve, expire, hpending, hexpired, permits, settle, resolved, deadlineViolation,
        Resolution.status]

/-- A resolved reservation is given back as it is, unless it would have to be confirmed. -/
theorem resolve_terminal {reservation : Reservation} (hterminal : reservation.isPending = false)
    (resolution : Resolution) (now : Instant) :
    reservation.resolve resolution now =
      if resolution = .confirm ∧ reservation.status ≠ .confirmed then
        .error (.invalidTransition reservation.status .confirm)
      else .ok (.alreadyResolved, reservation) := by
  cases resolution with
  | confirm =>
    cases hstatus : reservation.status <;>
      simp_all [isPending, resolve, confirm]
  | release => simp [resolve, release, hterminal]
  | expire => simp [resolve, expire, hterminal]

theorem id_of_resolve {reservation : Reservation} {resolution : Resolution} {now : Instant}
    {settled : Transition × Reservation}
    (hresolve : reservation.resolve resolution now = .ok settled) :
    settled.2.id = reservation.id := by
  cases hpending : reservation.isPending with
  | true =>
    rw [resolve_pending hpending] at hresolve
    split at hresolve <;> cases hresolve
    rfl
  | false =>
    rw [resolve_terminal hpending] at hresolve
    split at hresolve <;> cases hresolve
    rfl

end Reservation

namespace MemoryStore

open Program (goOn goOn_ok goOn_error)

/-- Every record stands under its own product, and every reservation under its own id. -/
structure Keyed (store : MemoryStore) : Prop where
  records : ∀ product record, store.inventory.find? product = some record →
    record.product = product
  reservations : ∀ id reservation, store.reservations.find? id = some reservation →
    reservation.id = id

/-! ## Units of work as equations -/

theorem perform_change (store : MemoryStore) (product : ProductId)
    (edit : StockRecord → Except Violation StockRecord) :
    store.perform (UnitOfWork.change product edit) =
      match store.inventory.find? product with
      | none => (.error (.productMissing product), store)
      | some record =>
        match edit record with
        | .error violation => (.error (.violation violation), store)
        | .ok updated =>
          (.ok updated,
            { store with inventory := store.inventory.insert updated.product updated }) := by
  rw [UnitOfWork.change, perform_lockProduct]
  cases store.inventory.find? product with
  | none => rfl
  | some record =>
    simp only [perform_bind, perform_obey]
    cases edit record <;> rfl

theorem perform_delete (store : MemoryStore) (product : ProductId) :
    store.perform (UnitOfWork.delete product) =
      match store.inventory.find? product with
      | none => (.error (.productMissing product), store)
      | some record =>
        if Quantity.zero < record.reserved then
          (.error (.stillReserved record.product record.reserved), store)
        else (.ok (), { store with inventory := store.inventory.erase product }) := by
  rw [UnitOfWork.delete, perform_lockProduct]
  cases store.inventory.find? product with
  | none => rfl
  | some record =>
    by_cases hreserved : Quantity.zero < record.reserved
    · simp only [hreserved, if_true]
      rfl
    · simp only [hreserved, if_false]
      rfl

theorem perform_reserve (store : MemoryStore) (reservation : Reservation) :
    store.perform (UnitOfWork.reserve reservation) =
      match store.lockAll .empty reservation.lockOrder with
      | .error error => (.error error, store)
      | .ok locked =>
        match locked.hold reservation with
        | .error error => (.error error, store)
        | .ok held =>
          (.ok reservation,
            { store.writeAll held.values with
              reservations := store.reservations.insert reservation.id reservation }) := by
  rw [UnitOfWork.reserve, perform_bind, perform_lockProducts]
  cases store.lockAll .empty reservation.lockOrder with
  | error error => rfl
  | ok locked =>
    simp only [goOn_ok]
    rw [perform_bind, perform_attempt]
    cases locked.hold reservation with
    | error error => rfl
    | ok held =>
      simp only [goOn_ok]
      rw [perform_bind, perform_writeRecords, goOn_ok, perform_addReservation, perform_pure]
      rfl

theorem perform_resolve (store : MemoryStore) (id : Uuid) (resolution : Resolution)
    (now : Instant) :
    store.perform (UnitOfWork.resolve id resolution now) =
      match store.reservations.find? id with
      | none => (.error (.reservationMissing id), store)
      | some reservation =>
        if reservation.isPending then
          match store.lockAll .empty reservation.lockOrder with
          | .error error => (.error error, store)
          | .ok locked =>
            if reservation.permits resolution now then
              match locked.resolveLines resolution now reservation.lines with
              | .error error => (.error error, store)
              | .ok edited =>
                (.ok ⟨.applied, reservation.resolved resolution now⟩,
                  { store.writeAll edited.values with
                    reservations := store.reservations.insert reservation.id
                      (reservation.resolved resolution now) })
            else (.error (.violation (Reservation.deadlineViolation resolution)), store)
        else
          ((reservation.resolve resolution now).mapError .violation |>.map
            fun settled => ⟨.alreadyResolved, settled.2⟩, store) := by
  rw [UnitOfWork.resolve, perform_lockReservation]
  cases store.reservations.find? id with
  | none => rfl
  | some reservation =>
    dsimp only
    by_cases hpending : reservation.isPending = true
    · have hlive : ¬ reservation.status.isTerminal = true := by
        simp [Reservation.isTerminal_eq, hpending]
      rw [if_pos hpending, if_neg hlive, perform_bind, perform_lockProducts]
      cases store.lockAll .empty reservation.lockOrder with
      | error error => rfl
      | ok locked =>
        simp only [goOn_ok]
        rw [perform_bind, perform_obey, Reservation.resolve_pending hpending]
        cases reservation.permits resolution now with
        | false => rfl
        | true =>
          simp only [if_true, mapError_ok, goOn_ok, reduceCtorEq, if_false]
          rw [perform_bind, perform_attempt]
          change goOn (locked.resolveLines resolution now reservation.lines, store) _ = _
          cases locked.resolveLines resolution now reservation.lines with
          | error error => rfl
          | ok edited =>
            simp only [goOn_ok]
            rw [perform_bind, perform_writeRecords, goOn_ok, perform_settleReservation,
              perform_pure]
            rfl
    · have hterminal : reservation.status.isTerminal = true := by
        simpa [Reservation.isTerminal_eq] using hpending
      rw [if_neg hpending, if_pos hterminal, perform_bind, perform_obey]
      cases reservation.resolve resolution now <;> rfl

/-! ## What a unit of work can do -/

/-- A change fails, or it writes what the edit has made of the record. -/
theorem change_cases (store : MemoryStore) (product : ProductId)
    (edit : StockRecord → Except Violation StockRecord) :
    (∃ error, store.perform (UnitOfWork.change product edit) = (.error error, store)) ∨
      ∃ record updated, store.inventory.find? product = some record ∧ edit record = .ok updated ∧
        store.perform (UnitOfWork.change product edit) = (.ok updated,
          { store with inventory := store.inventory.insert updated.product updated }) := by
  rw [perform_change]
  cases hfound : store.inventory.find? product with
  | none => exact .inl ⟨_, rfl⟩
  | some record =>
    dsimp only
    cases hedited : edit record with
    | error violation => exact .inl ⟨_, rfl⟩
    | ok updated => exact .inr ⟨record, updated, rfl, hedited, rfl⟩

/-- A reservation fails, or it writes the records that its lines have edited. -/
theorem reserve_writes (store : MemoryStore) (reservation : Reservation) :
    (∃ error, store.perform (UnitOfWork.reserve reservation) = (.error error, store)) ∨
      ∃ locked held, store.lockAll .empty reservation.lockOrder = .ok locked ∧
        locked.editLines (WorkingCopy.holdEdit reservation.createdAt) reservation.lines =
          .ok held ∧
        store.perform (UnitOfWork.reserve reservation) = (.ok reservation,
          { store.writeAll held.values with
            reservations := store.reservations.insert reservation.id reservation }) := by
  rw [perform_reserve]
  cases hlocked : store.lockAll .empty reservation.lockOrder with
  | error error => exact .inl ⟨error, rfl⟩
  | ok locked =>
    dsimp only
    cases hheld : locked.hold reservation with
    | error error => exact .inl ⟨error, rfl⟩
    | ok held =>
      rw [WorkingCopy.hold, WorkingCopy.holdLines_eq] at hheld
      exact .inr ⟨locked, held, rfl, hheld, rfl⟩

/-- A resolution fails, or finds its reservation resolved, or writes the records that the lines of
the reservation have edited. -/
theorem resolve_writes (store : MemoryStore) (id : Uuid) (resolution : Resolution)
    (now : Instant) :
    (∃ error, store.perform (UnitOfWork.resolve id resolution now) = (.error error, store)) ∨
    (∃ reservation, store.reservations.find? id = some reservation ∧
      reservation.isPending = false ∧ store.perform (UnitOfWork.resolve id resolution now) =
        (.ok ⟨.alreadyResolved, reservation⟩, store)) ∨
    ∃ reservation locked edited, store.reservations.find? id = some reservation ∧
      reservation.isPending = true ∧ reservation.permits resolution now = true ∧
      store.lockAll .empty reservation.lockOrder = .ok locked ∧
      locked.editLines (WorkingCopy.resolveEdit resolution now) reservation.lines = .ok edited ∧
      store.perform (UnitOfWork.resolve id resolution now) =
        (.ok ⟨.applied, reservation.resolved resolution now⟩,
          { store.writeAll edited.values with
            reservations := store.reservations.insert reservation.id
              (reservation.resolved resolution now) }) := by
  rw [perform_resolve]
  cases hfound : store.reservations.find? id with
  | none => exact .inl ⟨_, rfl⟩
  | some reservation =>
    dsimp only
    cases hpending : reservation.isPending with
    | false =>
      rw [if_neg (by simp), Reservation.resolve_terminal hpending]
      split
      · exact .inl ⟨_, rfl⟩
      · exact .inr (.inl ⟨reservation, rfl, hpending, rfl⟩)
    | true =>
      rw [if_pos rfl]
      cases hlocked : store.lockAll .empty reservation.lockOrder with
      | error error => exact .inl ⟨error, rfl⟩
      | ok locked =>
        dsimp only
        cases hpermits : reservation.permits resolution now with
        | false => exact .inl ⟨_, rfl⟩
        | true =>
          rw [if_pos rfl]
          cases hedited : locked.resolveLines resolution now reservation.lines with
          | error error => exact .inl ⟨error, rfl⟩
          | ok edited =>
            rw [WorkingCopy.resolveLines_eq] at hedited
            exact .inr (.inr ⟨reservation, locked, edited, rfl, hpending, hpermits, hlocked,
              hedited, rfl⟩)

/-! ## Records after a unit of work -/

/-- What was changed on locked copies is what the store holds after they were written. -/
theorem edited_writeAll {store : MemoryStore} (hkeyed : store.Keyed)
    {edit : ReservationLine → StockRecord → Except StockError StockRecord}
    {lines : List ReservationLine} {order : List ProductId} {locked edited : WorkingCopy}
    (hdistinct : (ReservationLine.products lines).Nodup)
    (horder : ∀ product, product ∈ order ↔ product ∈ ReservationLine.products lines)
    (hkeeps : ∀ line record updated, edit line record = .ok updated →
      updated.product = record.product)
    (hlocked : store.lockAll .empty order = .ok locked)
    (hedited : locked.editLines edit lines = .ok edited) :
    WorkingCopy.Edited edit lines store.inventory.find?
      (store.writeAll edited.values).inventory.find? := by
  obtain ⟨_, hlookup⟩ := lockAll_eq_ok hlocked
  obtain ⟨hchanged, hkept⟩ := (WorkingCopy.editLines_eq_ok_iff hdistinct).1 hedited
  have hinside {line : ReservationLine} (hline : line ∈ lines) :
      locked.find? line.product = store.inventory.find? line.product := by
    rw [hlookup, if_pos ((horder _).2 (List.mem_map_of_mem hline))]
  have houtside {product : ProductId} (habsent : product ∉ ReservationLine.products lines) :
      edited.find? product = none := by
    rw [hkept product habsent, hlookup, if_neg (habsent ∘ (horder product).1)]
    rfl
  have hcopy : WorkingCopy.Keyed edited := by
    intro product record hfound
    by_cases hmem : product ∈ ReservationLine.products lines
    · obtain ⟨line, hline, rfl⟩ := List.mem_map.1 hmem
      obtain ⟨old, updated, hold, hedit, hnew⟩ := hchanged line hline
      rw [hinside hline] at hold
      rw [hnew] at hfound
      obtain rfl := Option.some.inj hfound
      rw [hkeeps line old updated hedit, hkeyed.records _ _ hold]
    · rw [houtside hmem] at hfound
      cases hfound
  have hwritten := store.find?_writeAll_values hcopy
  constructor
  · intro line hline
    obtain ⟨old, updated, hold, hedit, hnew⟩ := hchanged line hline
    exact ⟨old, updated, hinside hline ▸ hold, hedit, by rw [hwritten, hnew]; rfl⟩
  · intro product habsent
    rw [hwritten, houtside habsent]
    rfl

/-- The store after a reservation has taken its stock. -/
structure Holds (before : MemoryStore) (reservation : Reservation) (after : MemoryStore) :
    Prop where
  edited : WorkingCopy.Edited (WorkingCopy.holdEdit reservation.createdAt) reservation.lines
    before.inventory.find? after.inventory.find?
  reservations : after.reservations = before.reservations.insert reservation.id reservation
  processed : after.processed = before.processed

/-- The store after a resolution has been applied to a reservation and its stock. -/
structure Settles (before : MemoryStore) (reservation : Reservation) (resolution : Resolution)
    (now : Instant) (after : MemoryStore) : Prop where
  edited : WorkingCopy.Edited (WorkingCopy.resolveEdit resolution now) reservation.lines
    before.inventory.find? after.inventory.find?
  reservations : after.reservations =
    before.reservations.insert reservation.id (reservation.resolved resolution now)
  processed : after.processed = before.processed

theorem reserve_cases {store : MemoryStore} (hkeyed : store.Keyed) {reservation : Reservation}
    (hdistinct : reservation.products.Nodup) :
    (∃ error, store.perform (UnitOfWork.reserve reservation) = (.error error, store)) ∨
      ∃ after, store.perform (UnitOfWork.reserve reservation) = (.ok reservation, after) ∧
        Holds store reservation after := by
  rcases store.reserve_writes reservation with hfailed | ⟨locked, held, hlocked, hheld, heq⟩
  · exact .inl hfailed
  · exact .inr ⟨_, heq, edited_writeAll hkeyed hdistinct (fun _ => Reservation.mem_lockOrder)
      (fun _ _ _ => WorkingCopy.product_of_holdEdit) hlocked hheld, rfl, rfl⟩

theorem resolve_cases {store : MemoryStore} (hkeyed : store.Keyed) (id : Uuid)
    (resolution : Resolution) (now : Instant)
    (hdistinct : ∀ reservation, store.reservations.find? id = some reservation →
      reservation.products.Nodup) :
    (∃ error, store.perform (UnitOfWork.resolve id resolution now) = (.error error, store)) ∨
    (∃ reservation, store.reservations.find? id = some reservation ∧
      reservation.isPending = false ∧ store.perform (UnitOfWork.resolve id resolution now) =
        (.ok ⟨.alreadyResolved, reservation⟩, store)) ∨
    ∃ reservation after, store.reservations.find? id = some reservation ∧
      reservation.isPending = true ∧ reservation.permits resolution now = true ∧
      store.perform (UnitOfWork.resolve id resolution now) =
        (.ok ⟨.applied, reservation.resolved resolution now⟩, after) ∧
      Settles store reservation resolution now after := by
  rcases store.resolve_writes id resolution now with
    hfailed | hresolved |
      ⟨reservation, locked, edited, hfound, hpending, hpermits, hlocked, hedited, heq⟩
  · exact .inl hfailed
  · exact .inr (.inl hresolved)
  · exact .inr (.inr ⟨reservation, _, hfound, hpending, hpermits, heq,
      edited_writeAll hkeyed (hdistinct reservation hfound) (fun _ => Reservation.mem_lockOrder)
        (fun _ _ _ => WorkingCopy.product_of_resolveEdit) hlocked hedited, rfl, rfl⟩)

/-! ## Reachable stores -/

theorem Keyed.empty : empty.Keyed :=
  ⟨fun _ _ hfound => (Option.some_ne_none _ hfound.symm).elim,
    fun _ _ hfound => (Option.some_ne_none _ hfound.symm).elim⟩

theorem Keyed.distinct_ids {store : MemoryStore} (hkeyed : store.Keyed) :
    (store.reservations.values.map Reservation.id).Nodup := by
  have hkeys : store.reservations.values.map Reservation.id =
      store.reservations.entries.map Prod.fst :=
    SortedMap.map_values_eq hkeyed.reservations
  rw [hkeys]
  exact List.pairwise_map.2 store.reservations.keys_distinct

theorem Keyed.insertRecord {store : MemoryStore} (hkeyed : store.Keyed) (record : StockRecord) :
    Keyed { store with inventory := store.inventory.insert record.product record } := by
  refine ⟨fun product found hfound => ?_, hkeyed.reservations⟩
  rw [SortedMap.find?_insert] at hfound
  split at hfound
  · rwa [← Option.some.inj hfound]
  · exact hkeyed.records product found hfound

theorem Keyed.eraseRecord {store : MemoryStore} (hkeyed : store.Keyed) (product : ProductId) :
    Keyed { store with inventory := store.inventory.erase product } := by
  refine ⟨fun other found hfound => ?_, hkeyed.reservations⟩
  rw [SortedMap.find?_erase] at hfound
  split at hfound
  · cases hfound
  · exact hkeyed.records other found hfound

theorem Keyed.insertReservation {store : MemoryStore} (hkeyed : store.Keyed)
    (reservation : Reservation) :
    Keyed { store with
      reservations := store.reservations.insert reservation.id reservation } := by
  refine ⟨hkeyed.records, fun id found hfound => ?_⟩
  rw [SortedMap.find?_insert] at hfound
  split at hfound
  · rwa [← Option.some.inj hfound]
  · exact hkeyed.reservations id found hfound

theorem Keyed.perform {α : Type} {store : MemoryStore} (hkeyed : store.Keyed)
    (work : UnitOfWork α) : (store.perform work).2.Keyed := by
  refine Program.run_keeps (fun request state hstate => ?_) work hkeyed
  cases request with
  | lockProduct _ | lockReservation _ => exact hstate
  | writeRecord record => exact hstate.insertRecord record
  | removeProduct product => exact hstate.eraseRecord product
  | addReservation reservation | settleReservation reservation =>
    exact hstate.insertReservation reservation

theorem Keyed.answer {store : MemoryStore} (hkeyed : store.Keyed) (call : StoreCall) :
    (MemoryStore.answer call store).2.Keyed := by
  cases call with
  | create record =>
    simp only [MemoryStore.answer, create]
    split
    · exact hkeyed
    · exact hkeyed.insertRecord record
  | adjust _ _ _ | setThreshold _ _ _ | delete _ | reserve _ | resolve _ _ _ =>
    exact hkeyed.perform _
  | recordProcessed command =>
    simp only [MemoryStore.answer, recordProcessed]
    split
    · exact hkeyed
    · exact ⟨hkeyed.records, hkeyed.reservations⟩
  | find _ | findMany _ | lowStock _ _ | findReservation _ | overdue _ _ | findProcessed _ =>
    exact hkeyed

/-- The store after calls. -/
def afterAll (calls : List StoreCall) (store : MemoryStore) : MemoryStore :=
  calls.foldl (fun store call => (answer call store).2) store

theorem Keyed.afterAll {store : MemoryStore} (hkeyed : store.Keyed) (calls : List StoreCall) :
    (store.afterAll calls).Keyed := by
  induction calls generalizing store with
  | nil => exact hkeyed
  | cons call rest ih => exact ih (hkeyed.answer call)

end MemoryStore

/-- What the service makes sure of before it asks the store: records and reservations are new
where they are to be added, and no reservation takes the id of another. -/
def StoreCall.IsIssued (store : MemoryStore) : StoreCall → Prop
  | create record => ∃ id product initial threshold now,
      record = StockRecord.create id product initial threshold now
  | reserve reservation =>
    reservation.IsNew ∧ store.reservations.find? reservation.id = none
  | _ => True

/-- The stores that issued calls lead to from the empty one. -/
inductive MemoryStore.Reachable : MemoryStore → Prop
  | empty : Reachable MemoryStore.empty
  | answer {store : MemoryStore} (hreachable : Reachable store) (call : StoreCall)
      (hissued : call.IsIssued store) : Reachable (MemoryStore.answer call store).2

end Stockroom
