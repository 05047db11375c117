import Stockroom.Proofs.Service.Requested
import Stockroom.Proofs.Store.Settling

/-!
# An order and its direct operation

An order that is held and released, or expired, right afterwards leaves the
stock as it was.  If it is confirmed, the stock is what subtracting the units
of its products one after another would have left.
-/

namespace Stockroom

theorem Adjustment.ofText_subtract {quantity : Quantity} (hpositive : 0 < quantity.value) :
    ofText "SUBTRACT" quantity.value = .ok ⟨.subtract, quantity⟩ := by
  have hkind : AdjustmentKind.ofText "SUBTRACT" = .ok .subtract := by decide +kernel
  have hquantity : Quantity.positive quantity.value = .ok quantity :=
    Quantity.positive_eq_ok_iff.2 ⟨rfl, hpositive⟩
  rw [ofText, hkind, ok_bind, ofInt, hquantity]
  rfl

namespace MemoryService

/-- Every operation of a sequence succeeds. -/
def Succeeds (settings : ServiceSettings) (service : MemoryService) : List Step → Prop
  | [] => True
  | step :: rest =>
    (∃ value, (step.perform settings service).1 = .ok value) ∧
      Succeeds settings (step.perform settings service).2 rest

end MemoryService

namespace Step

variable {service : MemoryService}

/-- Subtracts units of a product. -/
def subtract (units : ProductId → Nat) (readings : ProductId → Nat → ClockReading)
    (product : ProductId) : Step :=
  ⟨.adjust product.text "SUBTRACT" (units product), readings product⟩

/-- Units of a product can be subtracted if they are available. -/
theorem subtract_succeeds (settings : ServiceSettings) (hkeyed : service.store.Keyed)
    {product : ProductId} {record : StockRecord} {units : ProductId → Nat}
    (hfound : service.store.inventory.find? product = some record)
    (hpositive : 0 < units product) (henough : units product ≤ record.available.value)
    (readings : ProductId → Nat → ClockReading) :
    let step := subtract units readings product
    (∃ updated, (step.perform settings service).1 = .ok updated) ∧
      service.store.Loses [product] units (step.perform settings service).2.store := by
  let quantity : Quantity := ⟨units product, henough.trans record.available.value_le⟩
  have hquantity : quantity.value = units product := rfl
  have hadjustment : Adjustment.ofText "SUBTRACT" quantity.value = .ok ⟨.subtract, quantity⟩ :=
    Adjustment.ofText_subtract hpositive
  obtain ⟨updated, after, hanswer, hloses⟩ := MemoryStore.answer_subtract hkeyed hfound
    hpositive henough hquantity (readings product 0).clock
  rcases adjust_cases settings service (readings product) product.text "SUBTRACT"
    quantity.value with ⟨violation, herror, _⟩ | ⟨checked, hchecked, hends⟩
  · rw [ProductId.ofText_text, ok_bind, hadjustment] at herror
    cases herror
  · rw [ProductId.ofText_text, ok_bind, hadjustment] at hchecked
    cases hchecked
    dsimp only at hends
    rw [hanswer] at hends
    exact ⟨⟨updated, hends.outcome⟩, hends.store ▸ hloses⟩

end Step

namespace MemoryService

variable {service : MemoryService}

/-- Available units of distinct products can be subtracted one after another. -/
theorem subtract_all (settings : ServiceSettings) (hkeyed : service.store.Keyed)
    {products : List ProductId} (hdistinct : products.Nodup) {units : ProductId → Nat}
    (hstocked : ∀ product ∈ products, ∃ record,
      service.store.inventory.find? product = some record ∧ 0 < units product ∧
        units product ≤ record.available.value)
    (readings : ProductId → Nat → ClockReading) :
    let steps := products.map (Step.subtract units readings)
    service.Succeeds settings steps ∧
      service.store.Loses products units (service.after settings steps).store := by
  induction products generalizing service with
  | nil => exact ⟨trivial, .nil _ _⟩
  | cons product rest ih =>
    obtain ⟨habsent, hrest⟩ := List.nodup_cons.1 hdistinct
    obtain ⟨record, hfound, hpositive, henough⟩ := hstocked product List.mem_cons_self
    obtain ⟨hsucceeds, hloses⟩ :=
      Step.subtract_succeeds settings hkeyed hfound hpositive henough readings
    -- The records of the other products are as they were, so there is enough for the rest.
    have hlater (other : ProductId) (hmem : other ∈ rest) : ∃ record,
        ((Step.subtract units readings product).perform settings service).2.store.inventory.find?
          other = some record ∧ 0 < units other ∧ units other ≤ record.available.value := by
      have hout : other ∉ [product] := fun hin =>
        habsent (List.mem_singleton.1 hin ▸ hmem)
      rw [hloses.kept other hout]
      exact hstocked other (List.mem_cons_of_mem _ hmem)
    obtain ⟨hothers, hlast⟩ := ih (Step.keyed_perform settings hkeyed _) hrest hlater
    exact ⟨⟨hsucceeds, hothers⟩, hloses.cons habsent hlast⟩

/-- What was held could have been subtracted directly, one product after another. -/
theorem subtract_held (settings : ServiceSettings) (hkeyed : service.store.Keyed)
    {lines : List ReservationLine} {reservation : Reservation} {held : MemoryStore}
    (hholds : service.store.Holds reservation held)
    (hmerges : ReservationLine.Merges lines reservation.lines)
    {order : List ProductId} (horder : order.Perm (ReservationLine.products lines).eraseDups)
    (readings : ProductId → Nat → ClockReading) :
    let steps := order.map (Step.subtract (ReservationLine.asked lines) readings)
    service.Succeeds settings steps ∧ service.store.Loses order (ReservationLine.asked lines)
      (service.after settings steps).store := by
  rw [← hmerges.products] at horder
  apply subtract_all settings hkeyed (horder.nodup_iff.2 hmerges.distinct)
  intro product hmem
  obtain ⟨line, hline, rfl⟩ := List.mem_map.1 (horder.mem_iff.1 hmem)
  obtain ⟨record, _, hfound, hedit, _⟩ := hholds.edited.changed line hline
  obtain ⟨hpositive, henough, _⟩ :=
    StockRecord.reserve_eq_ok_iff.1 (WorkingCopy.holdEdit_eq_ok_iff.1 hedit)
  rw [← hmerges.asked, ReservationLine.asked_of_mem hmerges.distinct hline]
  exact ⟨record, hfound, hpositive, henough⟩

/-- An order that was held can be released at once, or expired after its deadline, and the stock
is as before; or it can be confirmed until its deadline, and the stock is as if its units had been
subtracted product by product. -/
theorem resolve_after_reserve (settings : ServiceSettings) (service : MemoryService)
    (hkeyed : service.store.Keyed) (orderId : String) (requested : List RequestedLine)
    (readings : Nat → ClockReading) (reservation : Reservation)
    (hreserved : (Step.perform settings ⟨.reserve orderId requested, readings⟩ service).1 =
      .ok reservation) :
    let held := (Step.perform settings ⟨.reserve orderId requested, readings⟩ service).2
    (∀ readings, ∃ after, Step.Ends settings held ⟨.release reservation.id, readings⟩
      (.ok ⟨.applied, reservation.resolved .release (readings 0).clock⟩) after ∧
        after.SameStock service.store) ∧
    (∀ now readings, reservation.expiresAt < now →
      ∃ after, Step.Ends settings held ⟨.expire reservation.id now, readings⟩
        (.ok ⟨.applied, reservation.resolved .expire now⟩) after ∧
          after.SameStock service.store) ∧
    ∃ lines, Service.Requests requested lines ∧
      ∀ (order : List ProductId) (moments : ProductId → Nat → ClockReading),
        order.Perm (ReservationLine.products lines).eraseDups →
        let direct := order.map (Step.subtract (ReservationLine.asked lines) moments)
        service.Succeeds settings direct ∧
        ∀ readings, ¬ reservation.expiresAt < (readings 0).clock →
          ∃ after, Step.Ends settings held ⟨.confirm reservation.id, readings⟩
            (.ok ⟨.applied, reservation.resolved .confirm (readings 0).clock⟩) after ∧
              after.SameStock (service.after settings direct).store := by
  intro held
  obtain ⟨lines, hread, hmake, hholds⟩ := Step.holds_of_reserve hkeyed hreserved
  have hrequests := Service.mapM_reservationLine_iff.1 hread
  have hnew := (Reservation.isNew_of_make hmake).1
  have hmerges := Reservation.merges_of_make hmake
  have hkept : held.store.Keyed := Step.keyed_perform settings hkeyed _
  refine ⟨fun readings => ?_, fun now readings hdue => ?_, lines, hrequests, ?_⟩
  · have hpermits : reservation.permits .release (readings 0).clock = true := rfl
    obtain ⟨after, hanswer, hsettles⟩ := hholds.answer_resolve hkept hnew hpermits
    have hends := Step.release_ends settings held readings reservation.id
    exact ⟨after, by simpa only [hanswer, mapError_ok] using hends,
      hholds.sameStock hsettles nofun⟩
  · have hpermits : reservation.permits .expire now = true := decide_eq_true hdue
    obtain ⟨after, hanswer, hsettles⟩ := hholds.answer_resolve hkept hnew hpermits
    have hends := Step.expire_ends settings held readings reservation.id now
    exact ⟨after, by simpa only [hanswer, mapError_ok] using hends,
      hholds.sameStock hsettles nofun⟩
  · intro order moments horder direct
    obtain ⟨hsucceeds, hdirect⟩ := subtract_held settings hkeyed hholds hmerges horder moments
    have hsame (product : ProductId) : product ∈ order ↔ product ∈ ReservationLine.products lines :=
      horder.mem_iff.trans List.mem_eraseDups
    refine ⟨hsucceeds, fun readings hopen => ?_⟩
    have hpermits : reservation.permits .confirm (readings 0).clock = true := by
      rw [Reservation.permits, Reservation.isExpired, decide_eq_false hopen, Bool.not_false]
    obtain ⟨after, hanswer, hsettles⟩ := hholds.answer_resolve hkept hnew hpermits
    have hends := Step.confirm_ends settings held readings reservation.id
    exact ⟨after, by simpa only [hanswer, mapError_ok] using hends,
      (hholds.loses hsettles hmerges).sameStock hsame hdirect⟩

/-- Cups are asked for on two lines, with tea between them. -/
theorem resolve_after_reserve_of_two_products :
    let moment : ClockReading := ⟨0, .epoch, .epoch⟩
    let late : Instant := ⟨1000, 0, by decide⟩
    let settings : ServiceSettings := ⟨⟨900000000000⟩⟩
    let steps : List Step := [⟨.create "cup" (some 5) none, fun _ => moment⟩,
      ⟨.create "tea" (some 2) none, fun _ => moment⟩]
    let service := (start none .epoch Uuid.ofNat).after settings steps
    let requested : List RequestedLine := [⟨"cup", 1⟩, ⟨"tea", 2⟩, ⟨"cup", 3⟩]
    let reserved := Step.perform settings ⟨.reserve "order" requested, fun _ => moment⟩ service
    service.store.Keyed ∧ ∃ reservation, reserved.1 = .ok reservation ∧
      reservation.expiresAt < late ∧ ¬ reservation.expiresAt < .epoch ∧
      (∃ after, Step.Ends settings reserved.2 ⟨.release reservation.id, fun _ => moment⟩
        (.ok ⟨.applied, reservation.resolved .release .epoch⟩) after ∧
          after.SameStock service.store) ∧
      (∃ after, Step.Ends settings reserved.2 ⟨.expire reservation.id late, fun _ => moment⟩
        (.ok ⟨.applied, reservation.resolved .expire late⟩) after ∧
          after.SameStock service.store) ∧
      ∃ lines, Service.Requests requested lines ∧
        let direct := (ReservationLine.products lines).eraseDups.map
          (Step.subtract (ReservationLine.asked lines) fun _ _ => moment)
        service.Succeeds settings direct ∧
          ∃ after, Step.Ends settings reserved.2 ⟨.confirm reservation.id, fun _ => moment⟩
            (.ok ⟨.applied, reservation.resolved .confirm .epoch⟩) after ∧
              after.SameStock (service.after settings direct).store := by
  intro moment late settings steps service requested reserved
  have hkeyed : service.store.Keyed := keyed_after settings MemoryStore.Keyed.empty steps
  have hheld : reserved.1.toOption.map (fun reservation =>
      (decide (reservation.expiresAt < late), decide (reservation.expiresAt < .epoch))) =
        some (true, false) := by decide +kernel
  obtain ⟨reservation, hreserved, hdeadline⟩ := Option.map_eq_some_iff.1 hheld
  rw [toOption_eq_some_iff] at hreserved
  have hdue : reservation.expiresAt < late := of_decide_eq_true (congrArg Prod.fst hdeadline)
  have hopen : ¬ reservation.expiresAt < .epoch :=
    of_decide_eq_false (congrArg Prod.snd hdeadline)
  obtain ⟨hreleased, hexpired, lines, hrequests, hconfirmed⟩ := resolve_after_reserve settings
    service hkeyed "order" requested (fun _ => moment) reservation hreserved
  obtain ⟨hsucceeds, hagrees⟩ := hconfirmed _ (fun _ _ => moment) (.refl _)
  exact ⟨hkeyed, reservation, hreserved, hdue, hopen, hreleased fun _ => moment,
    hexpired late (fun _ => moment) hdue, lines, hrequests, hsucceeds,
    hagrees (fun _ => moment) hopen⟩

end MemoryService

end Stockroom
