import Stockroom.Proofs.Service.Accounting
import Stockroom.Proofs.Service.Ledger
import Stockroom.Proofs.Store.Overflowing

/-!
# Invalid requests

A request is turned down as invalid for what it says, not for the state of the
stock: it is checked before the store is asked.  The one exception is a sum of
stored units and asked units that is too large to be a quantity.  It has the
same kind of error as an argument that is too large, although other stock
would have had room for the same units.
-/

namespace Stockroom

open Program (goOn goOn_ok goOn_error run_bind)

theorem Adjustment.positive_of_ofText {kind : String} {quantity : Int} {adjustment : Adjustment}
    (hok : ofText kind quantity = .ok adjustment) (hkind : adjustment.kind ≠ .set) :
    0 < adjustment.quantity.value := by
  obtain ⟨read, _, hadjustment⟩ := bind_eq_ok_iff.1 hok
  cases read with
  | set =>
    obtain ⟨units, _, hmade⟩ := bind_eq_ok_iff.1 hadjustment
    cases hmade
    exact absurd rfl hkind
  | add | subtract =>
    obtain ⟨units, hunits, hmade⟩ := bind_eq_ok_iff.1 hadjustment
    cases hmade
    obtain ⟨value, _, hpositive⟩ := bind_eq_ok_iff.1 hunits
    obtain ⟨_, hchecked, hsame⟩ := bind_eq_ok_iff.1 hpositive
    cases hsame
    exact Quantity.ensurePositive_eq_ok_iff.1 hchecked

/-- Whether a reservation can be made does not depend on the id that it would have. -/
theorem Reservation.make_error {id : Uuid} {orderId : String} {lines : List ReservationLine}
    {holdFor : Duration} {now : Instant} {obstacle : Obstacle}
    (herror : make id orderId lines holdFor now = .error obstacle) (other : Uuid) :
    make other orderId lines holdFor now = .error obstacle := by
  rw [make] at herror ⊢
  cases hlines : Except.mapError Obstacle.violation (do
      ensureOrderId orderId
      ReservationLine.consolidate lines) with
  | error cause =>
    rw [hlines] at herror
    cases herror
    rfl
  | ok consolidated =>
    rw [hlines, ok_bind] at herror
    rw [ok_bind]
    cases hdeadline : now.add? holdFor with
    | none =>
      rw [hdeadline] at herror
      cases herror
      rfl
    | some expiresAt =>
      rw [hdeadline] at herror
      cases herror

/-- An operation adds asked units to stored ones, and the error says that they are too many: units
that are added to a stock, held for an order, or given back to the stock. -/
def Operation.Overflows (store : MemoryStore) (error : StockError) : Operation → Prop
  | .adjust text kind quantity => ∃ product adjustment record,
      ProductId.ofText text = .ok product ∧ Adjustment.ofText kind quantity = .ok adjustment ∧
      adjustment.kind = .add ∧ store.inventory.find? product = some record ∧
      error.Overflows record.available adjustment.quantity
  | .reserve _ lines => ∃ checked merged,
      lines.mapM Service.reservationLine = .ok checked ∧
      ReservationLine.consolidate checked = .ok merged ∧
      ∃ line ∈ merged, ∃ record, store.inventory.find? line.product = some record ∧
        error.Overflows record.reserved line.quantity
  | .release id | .expire id _ => ∃ reservation,
      store.reservations.find? id = some reservation ∧ reservation.isPending = true ∧
      ∃ line ∈ reservation.lines, ∃ record, store.inventory.find? line.product = some record ∧
        error.Overflows record.available line.quantity
  | _ => False

namespace Step

/-- The error with which the stock turns a step down. -/
def error? (settings : ServiceSettings) (service : MemoryService) (step : Step) :
    Option StockError :=
  match (step.perform settings service).1 with
  | .error (.stock error) => some error
  | .error .deadlineOutOfRange | .ok _ => none

theorem error?_eq_some_iff {settings : ServiceSettings} {service : MemoryService} {step : Step}
    {error : StockError} :
    step.error? settings service = some error ↔
      (step.perform settings service).1 = .error (.stock error) := by
  rw [error?]
  split <;> simp_all

end Step

namespace MemoryService

variable {α β : Type} {readings : Nat → ClockReading}

/-! ## Calls that find no fault -/

/-- A call that never fails because its request is invalid. -/
def Faultless (call : ServiceCall α) : Prop :=
  ∀ (readings : Nat → ClockReading) (state : MemoryService × Nat) (error : StockError),
    (timed readings call state).1 = .error (.stock error) → error.kind ≠ .validation

namespace Faultless

theorem pure (value : α) : Faultless (pure value : ServiceCall α) :=
  fun _ _ _ hfailed => nomatch hfailed

theorem refuse {error : StockError} (hkind : error.kind ≠ .validation) :
    Faultless (Service.refuse error : ServiceCall α) := by
  intro readings state other hfailed
  cases hfailed
  exact hkind

theorem bind {call : ServiceCall α} {next : α → ServiceCall β} (hcall : Faultless call)
    (hnext : ∀ value, Faultless (next value)) : Faultless (call >>= next) := by
  intro readings state error hfailed
  rw [timed_bind] at hfailed
  rcases hran : timed readings call state with ⟨cause | value, after⟩
  · rw [hran, goOn_error] at hfailed
    cases hfailed
    exact hcall readings state error (congrArg Prod.fst hran)
  · rw [hran, goOn_ok] at hfailed
    exact hnext value readings after error hfailed

theorem aside (request : LocalRequest) : Faultless (ServiceCall.aside request) :=
  fun _ _ _ hfailed => nomatch hfailed

theorem look {call : StoreCall} (hlook : call.IsLook) : Faultless (ServiceCall.store call) := by
  intro readings state error hfailed
  cases call <;> first | cases hfailed | exact hlook.elim

theorem lift (program : ServiceProgram α) :
    Faultless (ExceptT.lift program : ServiceCall α) := by
  intro readings state error hfailed
  have hran := run_bind (answerTimed readings) program
    (fun value => (Program.done (.ok value) : ServiceProgram (Except CallFailure α))) state
  cases (congrArg Prod.fst hran).symm.trans hfailed

end Faultless

theorem faultless_lookup (product : ProductId) : Faultless (Service.lookup product) := by
  refine .bind (.aside _) fun cached => ?_
  cases cached with
  | some record => exact .pure record
  | none =>
    refine .bind (.aside _) fun generation => .bind (.look trivial) fun record => ?_
    exact .bind (.aside _) fun _ => .pure record

theorem faultless_consultCache (products : List ProductId) :
    Faultless (Service.consultCache products) := by
  induction products with
  | nil => exact .pure _
  | cons product rest ih => exact .bind (.aside _) fun _ => .bind ih fun _ => .pure _

theorem faultless_takeGenerations (products : List ProductId) :
    Faultless (Service.takeGenerations products) := by
  induction products with
  | nil => exact .pure _
  | cons product rest ih => exact .bind (.aside _) fun _ => .bind ih fun _ => .pure _

theorem faultless_rememberAll (found : List StockRecord) (products : List (ProductId × UInt64)) :
    Faultless (Service.rememberAll found products) := by
  induction products with
  | nil => exact .pure _
  | cons product rest ih => exact .bind (.aside _) fun _ => .bind ih fun _ => .pure _

theorem faultless_lookupMissing (missing : List ProductId) :
    Faultless (Service.lookupMissing missing) := by
  rw [Service.lookupMissing]
  split
  · exact .pure _
  · refine .bind (faultless_takeGenerations missing) fun generations => ?_
    exact .bind (.look trivial) fun found => faultless_rememberAll found _

/-! ## What decides -/

/-- Whether and how a call fails because its request is invalid is the same for every service, but
for errors that are put down to the store. -/
def DecidedBesides (readings : Nat → ClockReading) (excepted : MemoryStore → StockError → Prop)
    (call : ServiceCall α) : Prop :=
  (∃ error, ∀ service, (timed readings call (service, 0)).1 = .error (.stock error)) ∨
    ∀ (service : MemoryService) (error : StockError), service.store.Reachable →
      (timed readings call (service, 0)).1 = .error (.stock error) →
      error.kind = .validation → excepted service.store error

variable {excepted : MemoryStore → StockError → Prop}

theorem Faultless.decided {call : ServiceCall α} (hcall : Faultless call) :
    DecidedBesides readings excepted call :=
  .inr fun service error _ hfailed hkind => absurd hkind (hcall readings (service, 0) error hfailed)

theorem decided_refuse (error : StockError) :
    DecidedBesides readings excepted (Service.refuse error : ServiceCall α) :=
  .inl ⟨error, fun _ => rfl⟩

theorem decided_obey_bind {checked : Except Violation α} {next : α → ServiceCall β}
    (hnext : ∀ value, checked = .ok value → DecidedBesides readings excepted (next value)) :
    DecidedBesides readings excepted (Service.obey checked >>= next) := by
  cases checked with
  | error violation => exact .inl ⟨.violation violation, fun _ => rfl⟩
  | ok value => exact hnext value rfl

theorem error_of_mapError {outcome : Except StockError α} {error : StockError}
    (hmapped : outcome.mapError CallFailure.stock = .error (.stock error)) :
    outcome = .error error := by
  cases outcome <;> cases hmapped
  rfl

/-- A call that first checks its arguments and then has the outcome of a call of the store. -/
theorem decided_of_checked {settings : ServiceSettings} {operation : Operation}
    {checked : Except Violation α} {outcome : MemoryService → α → Except StockError operation.Value}
    {left : MemoryService → α → MemoryStore}
    (hcases : ∀ service : MemoryService,
      (∃ violation, checked = .error violation ∧ Step.Ends settings service ⟨operation, readings⟩
        (.error (.stock (.violation violation))) service.store) ∨
      ∃ value, checked = .ok value ∧ Step.Ends settings service ⟨operation, readings⟩
        ((outcome service value).mapError .stock) (left service value))
    (hexcepted : ∀ (service : MemoryService) (value : α) (error : StockError), checked = .ok value →
      service.store.Reachable → outcome service value = .error error → error.kind = .validation →
      excepted service.store error) :
    DecidedBesides readings excepted (operation.call settings) := by
  cases hchecked : checked with
  | error violation =>
    refine .inl ⟨.violation violation, fun service => ?_⟩
    rcases hcases service with ⟨cause, hcause, hends⟩ | ⟨value, hvalue, _⟩
    · cases hchecked.symm.trans hcause
      exact hends.outcome
    · cases hchecked.symm.trans hvalue
  | ok value =>
    refine .inr fun service error hreachable hfailed hkind => ?_
    rcases hcases service with ⟨cause, hcause, _⟩ | ⟨found, hfound, hends⟩
    · cases hchecked.symm.trans hcause
    · obtain rfl : value = found := Except.ok.inj (hchecked.symm.trans hfound)
      have hended := error_of_mapError (hends.outcome.symm.trans hfailed)
      exact hexcepted service value error hchecked hreachable hended hkind

theorem decided_of_resolution {settings : ServiceSettings} {operation : Operation}
    {outcome : MemoryService → Except StockError operation.Value}
    {left : MemoryService → MemoryStore}
    (hends : ∀ service, Step.Ends settings service ⟨operation, readings⟩
      ((outcome service).mapError .stock) (left service))
    (hexcepted : ∀ (service : MemoryService) (error : StockError), service.store.Reachable →
      outcome service = .error error → error.kind = .validation → excepted service.store error) :
    DecidedBesides readings excepted (operation.call settings) :=
  @decided_of_checked Unit _ _ _ _ (.ok ()) (fun service _ => outcome service)
    (fun service _ => left service) (fun service => .inr ⟨(), rfl, hends service⟩)
    fun service _ error _ => hexcepted service error

/-! ## Operations -/

theorem decided_get (text : String) : DecidedBesides readings excepted (Service.get text) := by
  refine decided_obey_bind fun product _ => Faultless.decided ?_
  refine .bind (faultless_lookup product) fun found => ?_
  cases found with
  | some record => exact .pure record
  | none => exact .refuse nofun

theorem decided_check (text : String) (quantity : Option Int) :
    DecidedBesides readings excepted (Service.check text quantity) := by
  refine decided_obey_bind fun product _ => decided_obey_bind fun requested _ => ?_
  exact Faultless.decided (.bind (faultless_lookup product) fun _ => .pure _)

theorem decided_bulkCheck (lines : List CheckLine) :
    DecidedBesides readings excepted (Service.bulkCheck lines) := by
  refine decided_obey_bind fun checked _ => Faultless.decided ?_
  refine .bind (faultless_consultCache _) fun consulted => ?_
  exact .bind (faultless_lookupMissing _) fun _ => .pure _

theorem decided_lowStock (threshold : Option Int) (request : PageRequest) :
    DecidedBesides readings excepted (Service.lowStock threshold request) := by
  rw [Service.lowStock]
  split
  · exact decided_refuse _
  · split
    · exact decided_refuse _
    · exact decided_obey_bind fun _ _ => Faultless.decided (.look trivial)

theorem faultless_getReservation (id : Uuid) : Faultless (Service.getReservation id) := by
  refine .bind (.look trivial) fun found => ?_
  cases found with
  | some reservation => exact .pure reservation
  | none => exact .refuse nofun

theorem faultless_sweep (now : Instant) (batch : Nat) : Faultless (Sweep.once now batch) :=
  .bind (.look trivial) fun _ => .lift _

variable (settings : ServiceSettings)

theorem decided_create (text : String) (initial threshold : Option Int) :
    DecidedBesides readings excepted ((Operation.create text initial threshold).call settings) := by
  refine decided_of_checked (fun service =>
    Step.create_cases settings service readings text initial threshold) ?_
  intro service checked error _ _ hfailed hkind
  rw [MemoryStore.kind_of_answer_create_error hfailed] at hkind
  cases hkind

theorem decided_adjust (text kind : String) (quantity : Int) :
    DecidedBesides readings (fun store error => (Operation.adjust text kind quantity).Overflows
      store error) ((Operation.adjust text kind quantity).call settings) := by
  refine decided_of_checked (fun service =>
    Step.adjust_cases settings service readings text kind quantity) ?_
  rintro service ⟨product, adjustment⟩ error hchecked _ hfailed hkind
  obtain ⟨_, hproduct, hrest⟩ := bind_eq_ok_iff.1 hchecked
  obtain ⟨_, hadjustment, hsame⟩ := bind_eq_ok_iff.1 hrest
  cases hsame
  obtain ⟨hadds, record, hfound, hoverflows⟩ := MemoryStore.overflows_of_answer_adjust
    (Adjustment.positive_of_ofText hadjustment) hfailed hkind
  exact ⟨product, adjustment, record, hproduct, hadjustment, hadds, hfound, hoverflows⟩

theorem decided_setThreshold (text : String) (threshold : Int) :
    DecidedBesides readings excepted ((Operation.setThreshold text threshold).call settings) := by
  refine decided_of_checked (fun service =>
    Step.setThreshold_cases settings service readings text threshold) ?_
  intro service checked error _ _ hfailed hkind
  rw [MemoryStore.answer_setThreshold_error hfailed] at hkind
  cases hkind

theorem decided_delete (text : String) :
    DecidedBesides readings excepted ((Operation.delete text).call settings) := by
  refine decided_of_checked (fun service => Step.delete_cases settings service readings text) ?_
  intro service product error _ _ hfailed hkind
  exact absurd hkind (MemoryStore.kind_of_answer_delete_error hfailed)

/-- A request for stock is checked until its reservation can be made, with whatever id. -/
theorem decided_reserve (orderId : String) (lines : List RequestedLine) :
    DecidedBesides readings (fun store error => (Operation.reserve orderId lines).Overflows
      store error) ((Operation.reserve orderId lines).call settings) := by
  cases hchecked : lines.mapM Service.reservationLine with
  | error violation =>
    refine .inl ⟨.violation violation, fun service => ?_⟩
    rcases Step.reserve_cases settings service readings orderId lines with
      ⟨cause, hcause, hends⟩ | ⟨found, hfound, _⟩
    · cases hchecked.symm.trans hcause
      exact hends.outcome
    · cases hchecked.symm.trans hfound
  | ok checked =>
    have hends (service : MemoryService) :=
      Step.reserve_ends settings service readings orderId hchecked
    cases hmake : Reservation.make default orderId checked settings.holdFor (readings 1).clock with
    | error obstacle =>
      simp only [Reservation.make_error hmake] at hends
      cases obstacle with
      | violation violation =>
        exact .inl ⟨.violation violation, fun service => (hends service).outcome⟩
      | deadlineOutOfRange =>
        refine .inr fun service error _ hfailed _ => ?_
        cases (hends service).outcome.symm.trans hfailed
    | ok reservation =>
      refine .inr fun service error _ hfailed hkind => ?_
      have hended := hends service
      cases hmade : Reservation.make (service.around.supply service.around.drawn) orderId checked
          settings.holdFor (readings 1).clock with
      | error obstacle => cases hmake.symm.trans (Reservation.make_error hmade default)
      | ok made =>
        rw [hmade] at hended
        have hanswer := error_of_mapError (hended.outcome.symm.trans hfailed)
        obtain ⟨line, hline, record, hrecord, hoverflows⟩ :=
          MemoryStore.overflows_of_answer_reserve (Reservation.isNew_of_make hmade).1 hanswer hkind
        obtain ⟨merged, expiresAt, hmerged, _, rfl⟩ := Reservation.make_eq_ok hmade
        exact ⟨checked, merged, hchecked, hmerged, line, hline, record, hrecord, hoverflows⟩

/-- Whatever a step asks for, only a sum that is too large makes its validity depend on the
store. -/
theorem decided (step : Step) :
    DecidedBesides step.readings (fun store error => step.operation.Overflows store error)
      (step.operation.call settings) := by
  rcases step with ⟨operation, readings⟩
  cases operation with
  | create text initial threshold => exact decided_create settings text initial threshold
  | get text => exact decided_get text
  | check text quantity => exact decided_check text quantity
  | bulkCheck lines => exact decided_bulkCheck lines
  | adjust text kind quantity => exact decided_adjust settings text kind quantity
  | setThreshold text threshold => exact decided_setThreshold settings text threshold
  | delete text => exact decided_delete settings text
  | lowStock threshold request => exact decided_lowStock threshold request
  | reserve orderId lines => exact decided_reserve settings orderId lines
  | confirm id =>
    refine decided_of_resolution (fun service => Step.confirm_ends settings service readings id) ?_
    intro service error hreachable hfailed hkind
    exact absurd rfl (MemoryStore.overflows_of_answer_resolve hreachable.balanced hfailed hkind).1
  | release id =>
    refine decided_of_resolution (fun service => Step.release_ends settings service readings id) ?_
    intro service error hreachable hfailed hkind
    exact (MemoryStore.overflows_of_answer_resolve hreachable.balanced hfailed hkind).2
  | expire id now =>
    refine decided_of_resolution
      (fun service => Step.expire_ends settings service readings id now) ?_
    intro service error hreachable hfailed hkind
    exact (MemoryStore.overflows_of_answer_resolve hreachable.balanced hfailed hkind).2
  | getReservation id => exact (faultless_getReservation id).decided
  | overdue asOf limit => exact Faultless.decided (.look trivial)
  | sweep now batch => exact (faultless_sweep now batch).decided

/-- A service that has come from an empty store by any operations turns a request down as any other
service does: if it fails as invalid here, it fails with the same error there, unless it was a sum
of stored and asked units that was too large. -/
theorem invalid_alike_unless_overflow (lifetime : Option Nat) (clock : Instant)
    (supply : Nat → Uuid) (steps : List Step)
    (hfresh : (start lifetime clock supply).DrawsFresh settings steps) :
    let service := (start lifetime clock supply).after settings steps
    ∀ (step : Step) (error : StockError), step.error? settings service = some error →
      error.kind = .validation →
      (∀ other : MemoryService, step.error? settings other = some error) ∨
        step.operation.Overflows service.store error := by
  intro service step error hfailed hkind
  have hfailed := Step.error?_eq_some_iff.1 hfailed
  rcases decided settings step with ⟨cause, hfails⟩ | hexcepted
  · cases (hfails service).symm.trans hfailed
    exact .inl fun other => Step.error?_eq_some_iff.2 (hfails other)
  · have hreachable := reachable_after settings MemoryStore.Reachable.empty hfresh
    exact .inr (hexcepted service error hreachable hfailed hkind)

/-- Adding no cups is invalid, however many cups there are. -/
theorem invalid_alike_of_no_cups :
    let moment : ClockReading := ⟨0, .epoch, .epoch⟩
    let settings : ServiceSettings := ⟨⟨900000000000⟩⟩
    let steps : List Step := [⟨.create "cup" (some 1) none, fun _ => moment⟩]
    let service := (start none .epoch Uuid.ofNat).after settings steps
    let step : Step := ⟨.adjust "cup" "ADD" 0, fun _ => moment⟩
    let error : StockError := .violation .nonPositiveQuantity
    (start none .epoch Uuid.ofNat).DrawsFresh settings steps ∧
      step.error? settings service = some error ∧ error.kind = .validation ∧
      ((∀ other : MemoryService, step.error? settings other = some error) ∨
        step.operation.Overflows service.store error) := by
  intro moment settings steps service step error
  have hfresh : (start none .epoch Uuid.ofNat).DrawsFresh settings steps := ⟨trivial, trivial⟩
  have hfailed : step.error? settings service = some error := by decide +kernel
  exact ⟨hfresh, hfailed, rfl, invalid_alike_unless_overflow settings none .epoch Uuid.ofNat steps
    hfresh step error hfailed rfl⟩

/-- One cup more is fine for a stock of one cup, and invalid for a full one. -/
theorem added_cup_invalid_for_full_stock :
    let moment : ClockReading := ⟨0, .epoch, .epoch⟩
    let settings : ServiceSettings := ⟨⟨900000000000⟩⟩
    let steps : List Step := [⟨.create "cup" (some 1) none, fun _ => moment⟩]
    let fullSteps : List Step := steps ++ [⟨.adjust "cup" "SET" 2147483647, fun _ => moment⟩]
    let service := (start none .epoch Uuid.ofNat).after settings steps
    let full := (start none .epoch Uuid.ofNat).after settings fullSteps
    let step : Step := ⟨.adjust "cup" "ADD" 1, fun _ => moment⟩
    let error : StockError := .violation (.quantityOutOfRange 2147483648)
    (start none .epoch Uuid.ofNat).DrawsFresh settings steps ∧
      (start none .epoch Uuid.ofNat).DrawsFresh settings fullSteps ∧
      step.error? settings full = some error ∧ error.kind = .validation ∧
      (step.perform settings service).1.toOption.isSome = true := by
  intro moment settings steps fullSteps service full step error
  exact ⟨⟨trivial, trivial⟩, ⟨trivial, trivial, trivial⟩, by decide +kernel, rfl,
    by decide +kernel⟩

end MemoryService

end Stockroom
