import Stockroom.Proofs.Service.Reserving
import Stockroom.Proofs.Stock.Summing
import Stockroom.Proofs.Time.Holds

/-!
# Deadlines beyond the calendar

A hold that is too long for a duration and a deadline that is in no year of
the calendar are not errors that are answered: what has asked for them is
aborted.  That happens to settings and to orders, whatever answers the service,
and exactly for holds that are long enough.
-/

namespace Stockroom

/-! ## Orders -/

namespace Service

/-- Whatever answers the requests of the service, and the state that it is in. -/
structure World where
  State : Type
  answer : (request : ServiceRequest) → State → request.Answer × State
  state : State

namespace World

variable (world : World)

/-- What comes of an order. -/
def reserve (settings : ServiceSettings) (orderId : String) (requested : List RequestedLine) :
    Except CallFailure Reservation :=
  (Program.run world.answer (Service.reserve settings orderId requested).run world.state).1

/-- The service over a store in memory. -/
def inMemory (service : MemoryService) : World :=
  ⟨MemoryService, MemoryService.answer, service⟩

/-- What the clock shows to an order, for which an id has been drawn. -/
def clock : Instant :=
  (world.answer (.aside .now) (world.answer (.aside .freshId) world.state).2).1

end World

section Aborting

variable {State : Type} {answer : (request : ServiceRequest) → State → request.Answer × State}

/-- A reservation that was made is answered by the store. -/
theorem not_aborted_of_made (reservation : Reservation) (state : State) :
    (Program.run answer (Step.reserveMade (.ok reservation)).run state).1 ≠
      .error .deadlineOutOfRange := by
  have hstored : Program.run answer (ServiceCall.store (.reserve reservation)).run state =
      ((answer (.store (.reserve reservation)) state).1.mapError .stock,
        (answer (.store (.reserve reservation)) state).2) := rfl
  rw [Step.reserveMade, Program.run_exceptT_bind, hstored]
  cases (answer (.store (.reserve reservation)) state).1 with
  | error error => exact nofun
  | ok held =>
    rw [mapError_ok, Program.goOn_ok, run_forgetLines_return]
    exact nofun

end Aborting

end Service

/-- A deadline is looked for after everything else about an order was found to be right. -/
theorem Reservation.make_aborts_iff {id : Uuid} {orderId : String} {lines : List ReservationLine}
    {holdFor : Duration} {now : Instant} :
    make id orderId lines holdFor now = .error .deadlineOutOfRange ↔
      (Text.isBlank orderId = false ∧
        ∃ merged, ReservationLine.consolidate lines = .ok merged) ∧ now.add? holdFor = none := by
  constructor
  · intro haborts
    rcases bind_eq_error_iff.1 haborts with hchecked | ⟨merged, hchecked, haborts⟩
    · obtain ⟨_, _, hviolation⟩ := mapError_eq_error_iff.1 hchecked
      cases hviolation
    · obtain ⟨_, hnamed, hmerged⟩ := bind_eq_ok_iff.1 (mapError_eq_ok_iff.1 hchecked)
      rw [ensureOrderId] at hnamed
      split at hnamed
      · cases hnamed
      · rename_i hnotBlank
        refine ⟨⟨Bool.eq_false_iff.2 hnotBlank, merged, hmerged⟩, ?_⟩
        cases hdeadline : now.add? holdFor with
        | none => rfl
        | some expiresAt =>
          rw [hdeadline] at haborts
          cases haborts
  · rintro ⟨⟨hnamed, merged, hmerged⟩, hnone⟩
    rw [make, ensureOrderId, hnamed, if_neg Bool.false_ne_true, ok_bind, hmerged, mapError_ok,
      ok_bind, hnone]
    rfl

/-- Nothing is wrong with an order for one product. -/
theorem Service.orders_of_line {orderId : String} (hnamed : Text.isBlank orderId = false)
    (line : ReservationLine) (hpositive : 0 < line.quantity.value) :
    Orders orderId [line.written] [line] where
  written := rfl
  positive := List.forall_mem_singleton.2 hpositive
  named := hnamed
  nonempty := List.cons_ne_nil line []
  within := ReservationLine.asked_le_maximum (List.nodup_singleton _)

namespace Service.World

/-- An order is aborted exactly if nothing else is wrong with it and its deadline is not in the
calendar. -/
theorem reserve_aborts_iff (world : World) {settings : ServiceSettings} {orderId : String}
    {requested : List RequestedLine} :
    world.reserve settings orderId requested = .error .deadlineOutOfRange ↔
      (∃ lines, Orders orderId requested lines) ∧ world.clock.add? settings.holdFor = none := by
  let drawn := world.answer (.aside .freshId) world.state
  let read := world.answer (.aside .now) drawn.2
  have hrun {lines : List ReservationLine} (hread : requested.mapM reservationLine = .ok lines) :
      world.reserve settings orderId requested = (Program.run world.answer (Step.reserveMade
        (Reservation.make drawn.1 orderId lines settings.holdFor world.clock)).run read.2).1 := by
    rw [reserve, Step.reserve_eq, hread]
    rfl
  constructor
  · intro haborts
    cases hread : requested.mapM reservationLine with
    | error violation =>
      rw [reserve, Step.reserve_eq, hread] at haborts
      cases haborts
    | ok lines =>
      rw [hrun hread] at haborts
      cases hmake : Reservation.make drawn.1 orderId lines settings.holdFor world.clock with
      | ok reservation =>
        rw [hmake] at haborts
        exact absurd haborts (not_aborted_of_made reservation read.2)
      | error obstacle =>
        cases obstacle with
        | violation violation =>
          rw [hmake] at haborts
          cases haborts
        | deadlineOutOfRange =>
          obtain ⟨⟨hnamed, hmerged⟩, hnone⟩ := Reservation.make_aborts_iff.1 hmake
          obtain ⟨hnonempty, _, hwithin⟩ := ReservationLine.exists_consolidate_iff.1 hmerged
          have hrequests := mapM_reservationLine_iff.1 hread
          exact ⟨⟨lines, hrequests, hnamed, hnonempty, hwithin⟩, hnone⟩
  · rintro ⟨⟨lines, horders⟩, hnone⟩
    have hmerged := ReservationLine.exists_consolidate horders.nonempty horders.positive
      horders.within
    rw [hrun (mapM_reservationLine_iff.2 horders.toRequests),
      Reservation.make_aborts_iff.2 ⟨⟨horders.named, hmerged⟩, hnone⟩]
    rfl

end Service.World

/-! ## Settings -/

namespace Settings

variable {settings : Settings} {config : ForService}

theorem reserve_aborts_iff (hmade : settings.forService = .ok config) (world : Service.World)
    {orderId : String} {requested : List RequestedLine} :
    world.reserve config.service orderId requested = .error .deadlineOutOfRange ↔
      (∃ lines, Service.Orders orderId requested lines) ∧
        Instant.lastSecond < world.clock.seconds + settings.reservationTtlSecs := by
  obtain ⟨hpositive, hhold⟩ := hold_of_forService hmade
  rw [world.reserve_aborts_iff, hhold, Instant.add?_seconds_eq_none_iff hpositive]

/-- Orders can come as late as in the last second of the year 9999. -/
theorem exists_late_order : ∃ (world : Service.World) (orderId : String)
    (requested : List RequestedLine), world.clock.year = 9999 ∧
      world.clock.seconds = 253402300799 ∧ ∃ lines, Service.Orders orderId requested lines := by
  let service := MemoryService.start none ⟨253402300799, 0, by decide⟩ Uuid.ofNat
  let cup : ReservationLine := ⟨⟨"cup", by decide⟩, .one⟩
  exact ⟨.inMemory service, "order", [cup.written], by decide +kernel, rfl, [cup],
    Service.orders_of_line (by decide) cup Nat.one_pos⟩

/-- Settings are aborted over a hold that is too long for a duration, and an order without another
fault over a deadline that is not in the calendar.  Of the holds that settings accept, exactly those
of at most `safeSeconds` abort no order up to the year 9999. -/
theorem aborts_iff_beyond_calendar (settings : Settings) :
    (settings.forService = .error .holdOutOfRange ↔
      Duration.secondsLimit < settings.reservationTtlSecs) ∧
    ∀ config, settings.forService = .ok config →
      (∀ (world : Service.World) (orderId : String) (requested : List RequestedLine),
        world.reserve config.service orderId requested = .error .deadlineOutOfRange ↔
          (∃ lines, Service.Orders orderId requested lines) ∧
            Instant.lastSecond < world.clock.seconds + settings.reservationTtlSecs) ∧
      ((∀ world : Service.World, 1970 ≤ world.clock.year → world.clock.year ≤ 9999 →
          ∀ (orderId : String) (requested : List RequestedLine),
            world.reserve config.service orderId requested ≠ .error .deadlineOutOfRange) ↔
        settings.reservationTtlSecs ≤ Duration.safeSeconds) := by
  refine ⟨forService_aborts_iff, fun config hmade =>
    ⟨fun world orderId requested => reserve_aborts_iff hmade world, ?_⟩⟩
  constructor
  · intro hserves
    obtain ⟨world, orderId, requested, hyear, hlast, horders⟩ := exists_late_order
    refine Int.not_lt.1 fun hlong => ?_
    refine hserves world (by omega) (by omega) orderId requested ?_
    refine (reserve_aborts_iff hmade world).2 ⟨horders, ?_⟩
    rw [Duration.safeSeconds] at hlong
    rw [hlast, Instant.lastSecond]
    omega
  · intro hsafe world _ hyear orderId requested haborts
    have hseconds := Instant.seconds_of_year_le hyear
    have hbeyond := ((reserve_aborts_iff hmade world).1 haborts).2
    rw [Duration.safeSeconds] at hsafe
    rw [Instant.lastSecond] at hbeyond
    omega

/-- The longest hold that can be set is too long for a duration, and one that is not leads from
2024 beyond the calendar. -/
theorem long_holds_abort :
    let settings (seconds : Int) : Settings :=
      { ofTexts Setting.defaultText with reservationTtlSecs := seconds }
    let world := Service.World.inMemory
      (MemoryService.start none ⟨1704067200, 0, by decide⟩ Uuid.ofNat)
    (settings 9223372036854775807).forService = .error .holdOutOfRange ∧
      ∃ config, (settings 8500000000000).forService = .ok config ∧
        world.clock.year = 2024 ∧
        world.reserve config.service "order-1" [⟨"P1", 1⟩] = .error .deadlineOutOfRange := by
  intro settings world
  have hmade : (settings 8500000000000).forService = .ok _ := rfl
  let line : ReservationLine := ⟨⟨"P1", by decide⟩, .one⟩
  have hnamed : Text.isBlank "order-1" = false := by decide
  have horders : ∃ lines, Service.Orders "order-1" [⟨"P1", 1⟩] lines :=
    ⟨[line], Service.orders_of_line hnamed line Nat.one_pos⟩
  exact ⟨rfl, _, hmade, by decide +kernel, (reserve_aborts_iff hmade world).2 ⟨horders, by decide⟩⟩

end Settings

end Stockroom
