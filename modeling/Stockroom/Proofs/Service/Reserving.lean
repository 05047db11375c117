import Stockroom.Proofs.Service.Requested
import Stockroom.Proofs.Store.Reserving

/-!
# What becomes of an order

An order is looked through for faults in a fixed sequence: its lines one after
another, its id, the sums of its quantities, the smallest of its products that
has no record, and the first of its products whose stock cannot be held.  The
first fault is the error, and nothing has changed then.  An order without a
fault is held: its units have moved from available to reserved, and one
pending reservation of the merged lines was added.
-/

namespace Stockroom

namespace Service

/-- Orders that can be held if there is stock for them. -/
structure Orders (orderId : String) (requested : List RequestedLine)
    (lines : List ReservationLine) : Prop extends Requests requested lines where
  named : Text.isBlank orderId = false
  nonempty : lines ≠ []
  within : ∀ product, ReservationLine.asked lines product ≤ Quantity.maximum

/-- A product is asked for that has no record. -/
def Lacks (store : MemoryStore) (lines : List ReservationLine) (product : ProductId) : Prop :=
  product ∈ ReservationLine.products lines ∧ store.inventory.find? product = none

/-- A product and those that were first asked for before it, where all products have records and
the units of the earlier ones can be held. -/
structure Reaches (store : MemoryStore) (lines : List ReservationLine) (before : List ProductId)
    (product : ProductId) (record : StockRecord) : Prop where
  appears : ∃ after, (ReservationLine.products lines).eraseDups = before ++ product :: after
  present : ∀ other, ¬ Lacks store lines other
  holds : ∀ earlier ∈ before, ∀ found, store.inventory.find? earlier = some found →
    found.CanHold (ReservationLine.asked lines earlier)
  found : store.inventory.find? product = some record

/-- What keeps an order from being held, as the kind of an error and the error.  A fault is one
only if those that are looked for before it are absent. -/
inductive Fault (store : MemoryStore) (orderId : String) (requested : List RequestedLine) :
    FailureKind → StockError → Prop
  | badLine {before after : List RequestedLine} {line : RequestedLine} {violation : Violation}
      (hrequested : requested = before ++ line :: after)
      (hbefore : ∀ earlier ∈ before, earlier.violation? = none)
      (hline : line.violation? = some violation) :
      Fault store orderId requested .validation (.violation violation)
  | blankId {lines : List ReservationLine} (hrequests : Requests requested lines)
      (hblank : Text.isBlank orderId = true) :
      Fault store orderId requested .validation (.violation .emptyOrderId)
  | noLines (hnamed : Text.isBlank orderId = false) (hnone : requested = []) :
      Fault store orderId requested .validation (.violation .emptyReservation)
  | excess {before after : List ReservationLine} {line : ReservationLine}
      (hrequests : Requests requested (before ++ line :: after))
      (hnamed : Text.isBlank orderId = false)
      (hbefore : ∀ product, ReservationLine.asked before product ≤ Quantity.maximum)
      (hexcess : Quantity.maximum < ReservationLine.asked (before ++ [line]) line.product) :
      Fault store orderId requested .validation
        (.violation (.quantityOutOfRange ↑(ReservationLine.asked (before ++ [line]) line.product)))
  | missing {lines : List ReservationLine} {product : ProductId}
      (horders : Orders orderId requested lines) (hlacks : Lacks store lines product)
      (hfirst : ∀ other, Lacks store lines other → product ≤ other) :
      Fault store orderId requested .notFound (.productMissing product)
  | short {lines : List ReservationLine} {before : List ProductId} {product : ProductId}
      {record : StockRecord} (horders : Orders orderId requested lines)
      (hreaches : Reaches store lines before product record)
      (hshort : record.available.value < ReservationLine.asked lines product) :
      Fault store orderId requested .insufficientStock (.shortOf product)
  | full {lines : List ReservationLine} {before : List ProductId} {product : ProductId}
      {record : StockRecord} (horders : Orders orderId requested lines)
      (hreaches : Reaches store lines before product record)
      (henough : ReservationLine.asked lines product ≤ record.available.value)
      (hfull : Quantity.maximum < record.reserved.value + ReservationLine.asked lines product) :
      Fault store orderId requested .validation
        (.violation (.quantityOutOfRange
          ↑(record.reserved.value + ReservationLine.asked lines product)))

end Service

/-! ## Faults are errors -/

namespace Reservation

variable {id : Uuid} {orderId : String} {lines merged : List ReservationLine} {holdFor : Duration}
  {now expiresAt : Instant}

theorem make_of_violation {violation : Violation}
    (hchecked : (do ensureOrderId orderId; ReservationLine.consolidate lines) = .error violation) :
    make id orderId lines holdFor now = .error (.violation violation) := by
  rw [make, hchecked]
  rfl

/-- A reservation that has just been made, of lines that are merged. -/
def opened (id : Uuid) (orderId : String) (lines : List ReservationLine)
    (expiresAt now : Instant) : Reservation :=
  ⟨id, orderId, lines, .pending, expiresAt, now, now⟩

theorem make_of_consolidate (hnamed : Text.isBlank orderId = false)
    (hmerged : ReservationLine.consolidate lines = .ok merged)
    (hdeadline : now.add? holdFor = some expiresAt) :
    make id orderId lines holdFor now = .ok (opened id orderId merged expiresAt now) := by
  rw [make, ensureOrderId, hnamed, if_neg Bool.false_ne_true, ok_bind, hmerged, mapError_ok,
    ok_bind, hdeadline]
  rfl

end Reservation

namespace Service

variable {settings : ServiceSettings} {service : MemoryService} {readings : Nat → ClockReading}
  {orderId : String} {requested : List RequestedLine} {lines : List ReservationLine}
  {expiresAt : Instant}

theorem ends_of_violation (hrequests : Requests requested lines) {violation : Violation}
    (hchecked : (do Reservation.ensureOrderId orderId; ReservationLine.consolidate lines) =
      .error violation) :
    Step.Ends settings service ⟨.reserve orderId requested, readings⟩
      (.error (.stock (.violation violation))) service.store := by
  have hends := Step.reserve_ends settings service readings orderId
    (mapM_reservationLine_iff.2 hrequests)
  rwa [Reservation.make_of_violation hchecked] at hends

/-- What becomes of an order that can be held is what the store answers to its reservation. -/
theorem Orders.ends (horders : Orders orderId requested lines)
    (hdeadline : (readings 1).clock.add? settings.holdFor = some expiresAt)
    (service : MemoryService) :
    ∃ merged, ReservationLine.Merges lines merged ∧ ReservationLine.Consolidated merged ∧
      let made := Reservation.opened (service.around.supply service.around.drawn) orderId merged
        expiresAt (readings 1).clock
      Step.Ends settings service ⟨.reserve orderId requested, readings⟩
        ((MemoryStore.answer (.reserve made) service.store).1.mapError .stock)
        (MemoryStore.answer (.reserve made) service.store).2 := by
  obtain ⟨merged, hmerged⟩ := ReservationLine.exists_consolidate horders.nonempty horders.positive
    horders.within
  have hends := Step.reserve_ends settings service readings orderId
    (mapM_reservationLine_iff.2 horders.toRequests)
  rw [Reservation.make_of_consolidate horders.named hmerged hdeadline] at hends
  exact ⟨merged, ReservationLine.merges_of_consolidate hmerged,
    ReservationLine.consolidated_of_consolidate hmerged, hends⟩

/-- An order that reaches a product whose line cannot be held fails there. -/
theorem Orders.ends_of_reaches (horders : Orders orderId requested lines)
    (hdeadline : (readings 1).clock.add? settings.holdFor = some expiresAt)
    {before : List ProductId} {product : ProductId} {record : StockRecord} {error : StockError}
    (hreaches : Reaches service.store lines before product record)
    (hfailed : ∀ line : ReservationLine, line.product = product →
      line.quantity.value = ReservationLine.asked lines product → 0 < line.quantity.value →
      WorkingCopy.holdEdit (readings 1).clock line record = .error error) :
    Step.Ends settings service ⟨.reserve orderId requested, readings⟩ (.error (.stock error))
      service.store := by
  obtain ⟨merged, hmerges, hconsolidated, hends⟩ := horders.ends hdeadline service
  obtain ⟨after, hafter⟩ := hreaches.appears
  -- The products that were asked for before are those of the merged lines before its own.
  rw [← hmerges.products] at hafter
  obtain ⟨first, rest, rfl, rfl, hrest⟩ := List.map_eq_append_iff.1 hafter
  obtain ⟨line, last, rfl, rfl, rfl⟩ := List.map_eq_cons_iff.1 hrest
  have hquantity {one : ReservationLine} (hone : one ∈ first ++ line :: last) :
      one.quantity.value = ReservationLine.asked lines one.product := by
    rw [← hmerges.asked, ReservationLine.asked_of_mem hmerges.distinct hone]
  have hline : line ∈ first ++ line :: last := by simp
  have hpresent (other : ProductId)
      (hnamed : other ∈ ReservationLine.products (first ++ line :: last)) :
      ∃ found, service.store.inventory.find? other = some found := by
    apply Option.ne_none_iff_exists'.1
    rw [hmerges.products, List.mem_eraseDups] at hnamed
    exact fun habsent => hreaches.present other ⟨hnamed, habsent⟩
  have hbefore (earlier : ReservationLine) (hearlier : earlier ∈ first) (found : StockRecord)
      (hfound : service.store.inventory.find? earlier.product = some found) :
      found.CanHold earlier.quantity.value := by
    rw [hquantity (List.mem_append_left _ hearlier)]
    exact hreaches.holds earlier.product (List.mem_map_of_mem hearlier) found hfound
  have hrefused := hfailed line rfl (hquantity hline) (hconsolidated.positive line hline)
  have hanswer : MemoryStore.answer (.reserve (Reservation.opened
      (service.around.supply service.around.drawn) orderId (first ++ line :: last) expiresAt
      (readings 1).clock)) service.store = (.error error, service.store) :=
    MemoryStore.answer_reserve_of_first_error hconsolidated rfl hpresent hbefore hreaches.found
      hrefused
  simpa only [hanswer, mapError_error] using hends

theorem Fault.ends {kind : FailureKind} {error : StockError}
    (hfault : Fault service.store orderId requested kind error)
    (hdeadline : (readings 1).clock.add? settings.holdFor = some expiresAt) :
    Step.Ends settings service ⟨.reserve orderId requested, readings⟩ (.error (.stock error))
      service.store := by
  cases hfault with
  | @badLine before after line violation hrequested hbefore hline =>
    have hfailed : requested.mapM reservationLine = .error violation := by
      rw [hrequested]
      exact mapM_of_first_error
        (fun earlier hearlier => exists_reservationLine (hbefore earlier hearlier))
        (reservationLine_of_violation hline)
    rcases Step.reserve_cases settings service readings orderId requested with
      ⟨cause, hcause, hends⟩ | ⟨lines, hread, _⟩
    · cases hfailed.symm.trans hcause
      exact hends
    · cases hfailed.symm.trans hread
  | blankId hrequests hblank =>
    apply ends_of_violation hrequests
    rw [Reservation.ensureOrderId, if_pos hblank, error_bind]
  | noLines hnamed hnone =>
    have hrequests : Requests requested [] := ⟨hnone.symm, by simp⟩
    apply ends_of_violation hrequests
    rw [Reservation.ensureOrderId, hnamed]
    rfl
  | excess hrequests hnamed hbefore hexcess =>
    apply ends_of_violation hrequests
    rw [Reservation.ensureOrderId, hnamed, if_neg Bool.false_ne_true, ok_bind]
    exact ReservationLine.consolidate_of_excess hrequests.positive hbefore hexcess
  | @missing lines product horders hlacks hfirst =>
    obtain ⟨merged, hmerges, _, hends⟩ := horders.ends hdeadline service
    have hnamed (other : ProductId) :
        other ∈ ReservationLine.products merged ↔ other ∈ ReservationLine.products lines := by
      rw [hmerges.products, List.mem_eraseDups]
    have hanswer : MemoryStore.answer (.reserve (Reservation.opened
        (service.around.supply service.around.drawn) orderId merged expiresAt
        (readings 1).clock)) service.store = (.error (.productMissing product), service.store) :=
      MemoryStore.answer_reserve_of_missing ((hnamed product).2 hlacks.1) hlacks.2
        fun other hother habsent => hfirst other ⟨(hnamed other).1 hother, habsent⟩
    simpa only [hanswer, mapError_error] using hends
  | short horders hreaches hshort =>
    apply horders.ends_of_reaches hdeadline hreaches
    rintro line rfl hquantity _
    rw [← hquantity] at hshort
    exact WorkingCopy.holdEdit_of_short hshort _
  | full horders hreaches henough hfull =>
    apply horders.ends_of_reaches hdeadline hreaches
    rintro line rfl hquantity hpositive
    rw [← hquantity] at henough hfull ⊢
    exact WorkingCopy.holdEdit_of_full hpositive henough hfull _

theorem Fault.kind_eq {store : MemoryStore} {kind : FailureKind} {error : StockError}
    (hfault : Fault store orderId requested kind error) : error.kind = kind := by
  cases hfault with
  | badLine _ _ hline =>
    rw [StockError.kind_violation_eq_validation_iff]
    exact blamesRequest_of_violation hline
  | _ => rfl

/-! ## Orders without a fault -/

/-- If a property fails for a member of a list, it fails for a first one. -/
theorem exists_first_failing {α : Type} {list : List α} {property : α → Prop}
    (hfails : ¬ ∀ value ∈ list, property value) :
    ∃ before value after, list = before ++ value :: after ∧
      (∀ earlier ∈ before, property earlier) ∧ ¬ property value := by
  induction list with
  | nil => exact absurd (by simp) hfails
  | cons first rest ih =>
    by_cases hfirst : property first
    · have hrest : ¬ ∀ value ∈ rest, property value := fun hrest =>
        hfails (List.forall_mem_cons.2 ⟨hfirst, hrest⟩)
      obtain ⟨before, value, after, rfl, hbefore, hvalue⟩ := ih hrest
      exact ⟨first :: before, value, after, rfl, List.forall_mem_cons.2 ⟨hfirst, hbefore⟩, hvalue⟩
    · exact ⟨[], first, rest, rfl, by simp, hfirst⟩

theorem exists_least_lacking {store : MemoryStore} {product : ProductId}
    (hlacks : Lacks store lines product) :
    ∃ least, Lacks store lines least ∧ ∀ other, Lacks store lines other → least ≤ other := by
  have hsome : ¬ ∀ one ∈ ProductId.sortedDistinct (ReservationLine.products lines),
      store.inventory.find? one ≠ none := fun hpresent =>
    hpresent product (ProductId.mem_sortedDistinct.2 hlacks.1) hlacks.2
  obtain ⟨before, least, after, hsorted, hbefore, hleast⟩ := exists_first_failing hsome
  have hmem {one : ProductId} : one ∈ before ++ least :: after ↔
      one ∈ ReservationLine.products lines := by
    rw [← hsorted, ProductId.mem_sortedDistinct]
  have hascending : (before ++ least :: after).Pairwise (· < ·) :=
    hsorted ▸ ProductId.pairwise_sortedDistinct _
  refine ⟨least, ⟨hmem.1 (by simp), not_not.1 hleast⟩, fun other hother => ?_⟩
  rcases List.mem_append.1 (hmem.2 hother.1) with hearlier | hlater
  · exact absurd hother.2 (hbefore other hearlier)
  · rcases List.mem_cons.1 hlater with rfl | hafter
    · exact Std.le_refl _
    · have hpairs := (List.pairwise_append.1 hascending).2.1
      exact Std.le_of_lt ((List.pairwise_cons.1 hpairs).1 other hafter)

/-- Without a fault before it, every line of an order is a line of a reservation. -/
theorem orders_of_faultless {store : MemoryStore}
    (hfaultless : ∀ kind error, ¬ Fault store orderId requested kind error) :
    ∃ lines, Orders orderId requested lines := by
  have hvalid : ∀ line ∈ requested, line.violation? = none := by
    by_contra hinvalid
    obtain ⟨before, line, after, hrequested, hbefore, hline⟩ :=
      exists_first_failing hinvalid
    obtain ⟨violation, hviolation⟩ := Option.ne_none_iff_exists'.1 hline
    exact hfaultless _ _ (.badLine hrequested hbefore hviolation)
  obtain ⟨lines, hrequests⟩ := exists_requests hvalid
  have hnamed : Text.isBlank orderId = false := by
    rw [Bool.eq_false_iff]
    intro hblank
    exact hfaultless _ _ (.blankId hrequests hblank)
  refine ⟨lines, hrequests, hnamed, ?_, ?_⟩
  · rintro rfl
    exact hfaultless _ _ (.noLines hnamed hrequests.written.symm)
  · intro product
    apply Nat.not_lt.1
    intro hexcess
    obtain ⟨before, line, after, rfl, hbefore, hfirst⟩ :=
      ReservationLine.exists_first_excess hexcess
    exact hfaultless _ _ (.excess hrequests hnamed hbefore hfirst)

/-- Without a fault, the stock of every product of an order can be held. -/
theorem canHold_of_faultless {store : MemoryStore}
    (hfaultless : ∀ kind error, ¬ Fault store orderId requested kind error)
    (horders : Orders orderId requested lines) :
    ∀ product ∈ ReservationLine.products lines, ∃ record,
      store.inventory.find? product = some record ∧
        record.CanHold (ReservationLine.asked lines product) := by
  have hpresent (product : ProductId) : ¬ Lacks store lines product := by
    intro hlacks
    obtain ⟨least, hleast, hfirst⟩ := exists_least_lacking hlacks
    exact hfaultless _ _ (.missing horders hleast hfirst)
  have hholds : ∀ product ∈ (ReservationLine.products lines).eraseDups, ∀ record,
      store.inventory.find? product = some record →
        record.CanHold (ReservationLine.asked lines product) := by
    by_contra hfails
    obtain ⟨before, product, after, happears, hbefore, hproduct⟩ :=
      exists_first_failing hfails
    simp only [not_forall] at hproduct
    obtain ⟨record, hfound, hrefused⟩ := hproduct
    have hreaches : Reaches store lines before product record :=
      ⟨⟨after, happears⟩, hpresent, hbefore, hfound⟩
    by_cases henough : ReservationLine.asked lines product ≤ record.available.value
    · have hfull := Nat.not_le.1 fun hroom => hrefused ⟨henough, hroom⟩
      exact hfaultless _ _ (.full horders hreaches henough hfull)
    · exact hfaultless _ _ (.short horders hreaches (Nat.not_le.1 henough))
  intro product hnamed
  obtain ⟨record, hfound⟩ := Option.ne_none_iff_exists'.1 fun habsent =>
    hpresent product ⟨hnamed, habsent⟩
  exact ⟨record, hfound, hholds product (List.mem_eraseDups.2 hnamed) record hfound⟩

/-- What an order leaves behind that is held: a pending reservation of the merged lines, and their
units set aside. -/
structure Held (before : MemoryStore) (lines : List ReservationLine) (made : Reservation)
    (after : MemoryStore) : Prop where
  merged : made.lines.map (fun line => (line.product, line.quantity.value)) =
    (ReservationLine.products lines).eraseDups.map
      fun product => (product, ReservationLine.asked lines product)
  stock : before.SetsAside lines made.createdAt after
  added : after.reservations.entries.Perm ((made.id, made) :: before.reservations.entries)

theorem Orders.held (horders : Orders orderId requested lines) (hkeyed : service.store.Keyed)
    (hfresh : service.store.reservations.find?
      (service.around.supply service.around.drawn) = none)
    (hdeadline : (readings 1).clock.add? settings.holdFor = some expiresAt)
    (hholds : ∀ product ∈ ReservationLine.products lines, ∃ record,
      service.store.inventory.find? product = some record ∧
        record.CanHold (ReservationLine.asked lines product)) :
    ∃ merged after,
      let made := Reservation.opened (service.around.supply service.around.drawn) orderId merged
        expiresAt (readings 1).clock
      Step.Ends settings service ⟨.reserve orderId requested, readings⟩ (.ok made) after ∧
        Held service.store lines made after := by
  obtain ⟨merged, hmerges, hconsolidated, hends⟩ := horders.ends hdeadline service
  have hlines (line : ReservationLine) (hline : line ∈ merged) :
      ∃ record, service.store.inventory.find? line.product = some record ∧
        record.CanHold line.quantity.value := by
    have hnamed : line.product ∈ ReservationLine.products lines := by
      rw [← List.mem_eraseDups, ← hmerges.products]
      exact List.mem_map_of_mem hline
    rw [← ReservationLine.asked_of_mem hmerges.distinct hline, hmerges.asked]
    exact hholds line.product hnamed
  obtain ⟨after, hanswer, hheld⟩ :
      ∃ after, MemoryStore.answer (.reserve (Reservation.opened
          (service.around.supply service.around.drawn) orderId merged expiresAt
          (readings 1).clock)) service.store = (.ok _, after) ∧
        service.store.Holds (Reservation.opened (service.around.supply service.around.drawn)
          orderId merged expiresAt (readings 1).clock) after :=
    MemoryStore.exists_answer_reserve hkeyed hconsolidated hlines
  refine ⟨merged, after, by simpa only [hanswer, mapError_ok] using hends, hmerges.eq_sums,
    hheld.setsAside hmerges, ?_⟩
  rw [hheld.reservations]
  exact SortedMap.perm_entries_insert hfresh _

end Service

namespace MemoryService

/-- The first fault of an order is its error, which changes nothing; an order without a fault is
held. -/
theorem reserve_decided_by_faults (settings : ServiceSettings) (service : MemoryService)
    (hkeyed : service.store.Keyed) (orderId : String) (requested : List RequestedLine)
    (readings : Nat → ClockReading) (expiresAt : Instant)
    (hfresh : service.store.reservations.find?
      (service.around.supply service.around.drawn) = none)
    (hdeadline : (readings 1).clock.add? settings.holdFor = some expiresAt) :
    let ended := Step.perform settings ⟨.reserve orderId requested, readings⟩ service
    (∀ kind error, Service.Fault service.store orderId requested kind error →
      ended.1 = .error (.stock error) ∧ error.kind = kind ∧ ended.2.store = service.store) ∧
    ((∀ kind error, ¬ Service.Fault service.store orderId requested kind error) →
      ∃ lines merged, Service.Orders orderId requested lines ∧
        let made := Reservation.opened (service.around.supply service.around.drawn) orderId merged
          expiresAt (readings 1).clock
        ended.1 = .ok made ∧ Service.Held service.store lines made ended.2.store) := by
  intro ended
  constructor
  · intro kind error hfault
    have hends := hfault.ends hdeadline
    exact ⟨hends.outcome, hfault.kind_eq, hends.store⟩
  · intro hfaultless
    obtain ⟨lines, horders⟩ := Service.orders_of_faultless hfaultless
    obtain ⟨merged, after, hends, hheld⟩ := horders.held hkeyed hfresh hdeadline
      (Service.canHold_of_faultless hfaultless horders)
    rw [← hends.store] at hheld
    exact ⟨lines, merged, horders, hends.outcome, hheld⟩

/-- Cups are asked for on two lines, with tea between them. -/
theorem reserve_decided_by_faults_of_two_products :
    let moment : ClockReading := ⟨0, .epoch, .epoch⟩
    let settings : ServiceSettings := ⟨⟨900000000000⟩⟩
    let steps : List Step := [⟨.create "cup" (some 5) none, fun _ => moment⟩,
      ⟨.create "tea" (some 2) none, fun _ => moment⟩]
    let service := (start none .epoch Uuid.ofNat).after settings steps
    let requested : List RequestedLine := [⟨"cup", 1⟩, ⟨"tea", 2⟩, ⟨"cup", 3⟩]
    let ended := Step.perform settings ⟨.reserve "order" requested, fun _ => moment⟩ service
    service.store.Keyed ∧
      service.store.reservations.find? (service.around.supply service.around.drawn) = none ∧
      ∃ expiresAt, Instant.epoch.add? settings.holdFor = some expiresAt ∧
        ∃ lines merged, Service.Orders "order" requested lines ∧
          let made := Reservation.opened (service.around.supply service.around.drawn) "order"
            merged expiresAt .epoch
          ended.1 = .ok made ∧ Service.Held service.store lines made ended.2.store := by
  intro moment settings steps service requested ended
  have hkeyed : service.store.Keyed := keyed_after settings MemoryStore.Keyed.empty steps
  have hfresh : service.store.reservations.find?
      (service.around.supply service.around.drawn) = none := by decide +kernel
  have hsucceeds : ended.1.toOption.isSome = true := by decide +kernel
  obtain ⟨expiresAt, hdeadline⟩ : ∃ expiresAt,
      Instant.epoch.add? settings.holdFor = some expiresAt :=
    Option.isSome_iff_exists.1 (by decide +kernel)
  have hdecided := reserve_decided_by_faults settings service hkeyed "order" requested
    (fun _ => moment) expiresAt hfresh hdeadline
  refine ⟨hkeyed, hfresh, expiresAt, hdeadline, hdecided.2 fun kind error hfault => ?_⟩
  have hfailed : ended.1 = .error (.stock error) := (hdecided.1 kind error hfault).1
  rw [hfailed] at hsucceeds
  cases hsucceeds

end MemoryService

end Stockroom
