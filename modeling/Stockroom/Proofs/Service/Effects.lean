import Stockroom.Proofs.Service.Occasion
import Stockroom.Proofs.Service.Request
import Stockroom.Proofs.Store.Effects

/-!
# What operations do to the store

An operation that changes stock first checks its arguments.  Then it asks the
store one question, whose answer is its outcome, and the cache to forget.  An
operation that reads leaves the store as it is.
-/

namespace Stockroom

open Program (Conforms goOn goOn_ok goOn_error)

namespace MemoryService

variable {α β : Type} {readings : Nat → ClockReading}

/-- Runs a call while the clocks move. -/
def timed (readings : Nat → ClockReading) (call : ServiceCall α) (state : MemoryService × Nat) :
    Except CallFailure α × MemoryService × Nat :=
  Program.run (answerTimed readings) call.run state

/-- That is an occasion on which nothing is turned down. -/
theorem timed_eq_serve (call : ServiceCall α) (state : MemoryService × Nat) :
    timed readings call state = serve (.calm readings) call state := by
  rw [timed, serve, answerOn_calm]

theorem timed_bind (call : ServiceCall α) (next : α → ServiceCall β)
    (state : MemoryService × Nat) :
    timed readings (call >>= next) state =
      goOn (timed readings call state) fun value after => timed readings (next value) after := by
  simp only [timed_eq_serve, serve_bind]

theorem timed_obey_bind (result : Except Violation α) (next : α → ServiceCall β)
    (state : MemoryService × Nat) :
    timed readings (Service.obey result >>= next) state =
      match result with
      | .ok value => timed readings (next value) state
      | .error violation => (.error (.stock (.violation violation)), state) := by
  cases result <;> rfl

theorem timed_aside_bind (request : LocalRequest) (next : request.Answer → ServiceCall β)
    (state : MemoryService × Nat) :
    timed readings (ServiceCall.aside request >>= next) state =
      let answered := Surroundings.answer request (state.1.around.atReading (readings state.2))
      timed readings (next answered.1) (⟨state.1.store, answered.2⟩, state.2 + 1) := by
  simp only [timed_eq_serve, serve_aside_bind]
  rfl

theorem timed_store (call : StoreCall) (state : MemoryService × Nat) :
    timed readings (ServiceCall.store call) state =
      ((MemoryStore.answer call state.1.store).1.mapError .stock,
        ⟨(MemoryStore.answer call state.1.store).2,
          state.1.around.atReading (readings state.2)⟩, state.2 + 1) := by
  rw [timed_eq_serve, serve_store]
  rfl

/-- Forgetting leaves the store alone. -/
theorem timed_forget (product : ProductId) (value : α) (state : MemoryService × Nat) :
    ∃ last : MemoryService × Nat,
      timed readings (do ServiceCall.aside (.forget product); return value) state =
        (.ok value, last) ∧ last.1.store = state.1.store :=
  ⟨_, timed_aside_bind _ _ _, rfl⟩

/-- A call that goes on without a failure and without the store has the answer of the store. -/
theorem timed_store_bind {call : StoreCall} {next : call.Value → ServiceCall call.Value}
    (hnext : ∀ value (after : MemoryService × Nat), ∃ last : MemoryService × Nat,
      timed readings (next value) after = (.ok value, last) ∧ last.1.store = after.1.store)
    (state : MemoryService × Nat) :
    (timed readings (ServiceCall.store call >>= next) state).1 =
        (MemoryStore.answer call state.1.store).1.mapError .stock ∧
      (timed readings (ServiceCall.store call >>= next) state).2.1.store =
        (MemoryStore.answer call state.1.store).2 := by
  rw [timed_bind, timed_store]
  cases (MemoryStore.answer call state.1.store).1 with
  | error error => exact ⟨rfl, rfl⟩
  | ok value =>
    rw [mapError_ok, goOn_ok]
    obtain ⟨last, hlast, hstore⟩ := hnext value _
    rw [hlast]
    exact ⟨rfl, hstore⟩

theorem timed_forgetLines (lines : List ReservationLine) (value : α)
    (state : MemoryService × Nat) :
    ∃ last : MemoryService × Nat,
      timed readings (do Service.forgetLines lines; return value) state = (.ok value, last) ∧
        last.1.store = state.1.store := by
  let kept (last : MemoryService × Nat) : Prop := last.1.store = state.1.store
  have hstep (product : ProductId) (last : MemoryService × Nat) (hlast : kept last) :
      kept (answerTimed readings (.aside (.forget product)) last).2 := hlast
  exact ⟨Service.forgotten (answerTimed readings) lines state,
    Service.run_forgetLines_return (answerTimed readings) lines value state,
    Service.forgotten_keeps hstep lines rfl⟩

/-- A resolution is what the store makes of it. -/
theorem timed_resolve (id : Uuid) (resolution : Resolution) (now : Instant)
    (state : MemoryService × Nat) :
    (timed readings (Service.resolve id resolution now) state).1 =
        (MemoryStore.answer (.resolve id resolution now) state.1.store).1.mapError .stock ∧
      (timed readings (Service.resolve id resolution now) state).2.1.store =
        (MemoryStore.answer (.resolve id resolution now) state.1.store).2 := by
  refine timed_store_bind (fun outcome after => ?_) state
  cases outcome.wasApplied with
  | false => exact ⟨after, rfl, rfl⟩
  | true => exact timed_forgetLines outcome.reservation.lines outcome after

end MemoryService

namespace Step

open MemoryService

/-- An operation has an outcome and leaves a store behind. -/
structure Ends (settings : ServiceSettings) (service : MemoryService) (step : Step)
    (outcome : Except CallFailure step.operation.Value) (store : MemoryStore) : Prop where
  outcome : (step.perform settings service).1 = outcome
  store : (step.perform settings service).2.store = store

variable {settings : ServiceSettings} {service : MemoryService} {readings : Nat → ClockReading}

theorem ends_of_timed {operation : Operation} {outcome : Except CallFailure operation.Value}
    {store : MemoryStore}
    (hended : (timed readings (operation.call settings) (service, 0)).1 = outcome ∧
      (timed readings (operation.call settings) (service, 0)).2.1.store = store) :
    Ends settings service ⟨operation, readings⟩ outcome store :=
  ⟨hended.1, hended.2⟩

/-- An operation that checks its arguments first ends there if they break a rule, and goes on with
what they say if not. -/
theorem ends_checked {α : Type} {operation : Operation} {checked : Except Violation α}
    {next : α → ServiceCall operation.Value} {outcome : α → Except CallFailure operation.Value}
    {store : α → MemoryStore} (hcall : operation.call settings = Service.obey checked >>= next)
    (hnext : ∀ value, (timed readings (next value) (service, 0)).1 = outcome value ∧
      (timed readings (next value) (service, 0)).2.1.store = store value) :
    (∃ violation, checked = .error violation ∧ Ends settings service ⟨operation, readings⟩
        (.error (.stock (.violation violation))) service.store) ∨
      ∃ value, checked = .ok value ∧
        Ends settings service ⟨operation, readings⟩ (outcome value) (store value) := by
  cases checked with
  | error violation =>
    refine .inl ⟨violation, rfl, ends_of_timed ?_⟩
    rw [hcall]
    exact ⟨rfl, rfl⟩
  | ok value =>
    refine .inr ⟨value, rfl, ends_of_timed ?_⟩
    rw [hcall]
    exact hnext value

variable (settings service readings)

theorem create_cases (text : String) (initial threshold : Option Int) :
    (∃ violation,
      (do return (← ProductId.ofText text, ← Service.quantityOr .zero initial,
          ← Service.quantityOr StockRecord.defaultThreshold threshold)) = .error violation ∧
        Ends settings service ⟨.create text initial threshold, readings⟩
          (.error (.stock (.violation violation))) service.store) ∨
    ∃ checked,
      (do return (← ProductId.ofText text, ← Service.quantityOr .zero initial,
          ← Service.quantityOr StockRecord.defaultThreshold threshold)) = .ok checked ∧
        let call := StoreCall.create (StockRecord.create
          (service.around.supply service.around.drawn) checked.1 checked.2.1 checked.2.2
          (readings 1).clock)
        Ends settings service ⟨.create text initial threshold, readings⟩
          ((MemoryStore.answer call service.store).1.mapError .stock)
          (MemoryStore.answer call service.store).2 := by
  have hcall : Service.create text initial threshold =
      Service.obey (do return (← ProductId.ofText text, ← Service.quantityOr .zero initial,
        ← Service.quantityOr StockRecord.defaultThreshold threshold)) >>= fun checked => do
        let id ← ServiceCall.aside .freshId
        let now ← ServiceCall.aside .now
        let created ← ServiceCall.store
          (.create (StockRecord.create id checked.1 checked.2.1 checked.2.2 now))
        ServiceCall.aside (.forget created.product)
        return created := by
    rw [Service.create]
    cases ProductId.ofText text <;> cases Service.quantityOr .zero initial <;>
      cases Service.quantityOr StockRecord.defaultThreshold threshold <;> rfl
  refine ends_checked hcall fun checked => ?_
  exact timed_store_bind (fun created : StockRecord => timed_forget created.product created) _

theorem adjust_cases (text kind : String) (quantity : Int) :
    (∃ violation,
      (do return (← ProductId.ofText text, ← Adjustment.ofText kind quantity)) = .error violation ∧
        Ends settings service ⟨.adjust text kind quantity, readings⟩
          (.error (.stock (.violation violation))) service.store) ∨
    ∃ checked,
      (do return (← ProductId.ofText text, ← Adjustment.ofText kind quantity)) = .ok checked ∧
        let call := StoreCall.adjust checked.1 checked.2 (readings 0).clock
        Ends settings service ⟨.adjust text kind quantity, readings⟩
          ((MemoryStore.answer call service.store).1.mapError .stock)
          (MemoryStore.answer call service.store).2 := by
  have hcall : Service.adjust text kind quantity =
      Service.obey (do return (← ProductId.ofText text, ← Adjustment.ofText kind quantity)) >>=
        fun checked => do
        let now ← ServiceCall.aside .now
        let updated ← ServiceCall.store (.adjust checked.1 checked.2 now)
        ServiceCall.aside (.forget checked.1)
        return updated := by
    rw [Service.adjust]
    cases ProductId.ofText text <;> cases Adjustment.ofText kind quantity <;> rfl
  exact ends_checked hcall fun checked => timed_store_bind (timed_forget checked.1) _

theorem setThreshold_cases (text : String) (threshold : Int) :
    (∃ violation,
      (do return (← ProductId.ofText text, ← Quantity.ofInt threshold)) = .error violation ∧
        Ends settings service ⟨.setThreshold text threshold, readings⟩
          (.error (.stock (.violation violation))) service.store) ∨
    ∃ checked, (do return (← ProductId.ofText text, ← Quantity.ofInt threshold)) = .ok checked ∧
      let call := StoreCall.setThreshold checked.1 checked.2 (readings 0).clock
      Ends settings service ⟨.setThreshold text threshold, readings⟩
        ((MemoryStore.answer call service.store).1.mapError .stock)
        (MemoryStore.answer call service.store).2 := by
  have hcall : Service.setThreshold text threshold =
      Service.obey (do return (← ProductId.ofText text, ← Quantity.ofInt threshold)) >>=
        fun checked => do
        let now ← ServiceCall.aside .now
        let updated ← ServiceCall.store (.setThreshold checked.1 checked.2 now)
        ServiceCall.aside (.forget checked.1)
        return updated := by
    rw [Service.setThreshold]
    cases ProductId.ofText text <;> cases Quantity.ofInt threshold <;> rfl
  exact ends_checked hcall fun checked => timed_store_bind (timed_forget checked.1) _

theorem delete_cases (text : String) :
    (∃ violation, ProductId.ofText text = .error violation ∧
        Ends settings service ⟨.delete text, readings⟩
          (.error (.stock (.violation violation))) service.store) ∨
    ∃ product, ProductId.ofText text = .ok product ∧
      Ends settings service ⟨.delete text, readings⟩
        ((MemoryStore.answer (.delete product) service.store).1.mapError .stock)
        (MemoryStore.answer (.delete product) service.store).2 :=
  ends_checked rfl fun product => timed_store_bind (timed_forget product) _

/-- What becomes of a request once its reservation has been made, or could not be. -/
def reserveMade : Except Reservation.Obstacle Reservation → ServiceCall Reservation
  | .error (.violation violation) => Service.refuse (.violation violation)
  | .error .deadlineOutOfRange => throw .deadlineOutOfRange
  | .ok reservation => do
    let reservation ← ServiceCall.store (.reserve reservation)
    Service.forgetLines reservation.lines
    return reservation

theorem reserve_eq (settings : ServiceSettings) (orderId : String) (lines : List RequestedLine) :
    Service.reserve settings orderId lines = (do
      let checked ← Service.obey (lines.mapM Service.reservationLine)
      let id ← ServiceCall.aside .freshId
      let now ← ServiceCall.aside .now
      reserveMade (Reservation.make id orderId checked settings.holdFor now)) := by
  rw [Service.reserve]
  refine congrArg _ (funext fun checked => congrArg _ (funext fun id => congrArg _ ?_))
  funext now
  cases Reservation.make id orderId checked settings.holdFor now with
  | ok reservation => rfl
  | error obstacle => cases obstacle <;> rfl

theorem timed_reserve (settings : ServiceSettings) (service : MemoryService)
    (readings : Nat → ClockReading) (orderId : String)
    {lines : List RequestedLine} {checked : List ReservationLine}
    (hchecked : lines.mapM Service.reservationLine = .ok checked) :
    ∃ around, timed readings (Service.reserve settings orderId lines) (service, 0) =
      timed readings (reserveMade (Reservation.make (service.around.supply service.around.drawn)
        orderId checked settings.holdFor (readings 1).clock)) (⟨service.store, around⟩, 2) := by
  apply Exists.intro
  rw [reserve_eq, timed_obey_bind, hchecked]
  rfl

theorem reserve_cases (orderId : String) (lines : List RequestedLine) :
    (∃ violation, lines.mapM Service.reservationLine = .error violation ∧
        Ends settings service ⟨.reserve orderId lines, readings⟩
          (.error (.stock (.violation violation))) service.store) ∨
    ∃ checked, lines.mapM Service.reservationLine = .ok checked ∧
      match Reservation.make (service.around.supply service.around.drawn) orderId checked
          settings.holdFor (readings 1).clock with
      | .error (.violation violation) => Ends settings service ⟨.reserve orderId lines, readings⟩
          (.error (.stock (.violation violation))) service.store
      | .error .deadlineOutOfRange => Ends settings service ⟨.reserve orderId lines, readings⟩
          (.error .deadlineOutOfRange) service.store
      | .ok reservation => Ends settings service ⟨.reserve orderId lines, readings⟩
          ((MemoryStore.answer (.reserve reservation) service.store).1.mapError .stock)
          (MemoryStore.answer (.reserve reservation) service.store).2 := by
  cases hchecked : lines.mapM Service.reservationLine with
  | error violation =>
    refine .inl ⟨violation, rfl, ends_of_timed ?_⟩
    rw [Operation.call, reserve_eq, timed_obey_bind, hchecked]
    exact ⟨rfl, rfl⟩
  | ok checked =>
    refine .inr ⟨checked, rfl, ?_⟩
    obtain ⟨around, htimed⟩ := timed_reserve settings service readings orderId hchecked
    cases hmake : Reservation.make (service.around.supply service.around.drawn) orderId checked
        settings.holdFor (readings 1).clock with
    | error obstacle =>
      rw [hmake] at htimed
      cases obstacle <;>
      · refine ends_of_timed ?_
        rw [Operation.call, htimed]
        exact ⟨rfl, rfl⟩
    | ok reservation =>
      rw [hmake] at htimed
      refine ends_of_timed ?_
      rw [Operation.call, htimed]
      exact timed_store_bind (fun held : Reservation => timed_forgetLines held.lines held) _

/-- Once its lines are in order, a request for stock ends with what becomes of its reservation. -/
theorem reserve_ends (orderId : String) {lines : List RequestedLine}
    {checked : List ReservationLine}
    (hchecked : lines.mapM Service.reservationLine = .ok checked) :
    match Reservation.make (service.around.supply service.around.drawn) orderId checked
        settings.holdFor (readings 1).clock with
    | .error (.violation violation) => Ends settings service ⟨.reserve orderId lines, readings⟩
        (.error (.stock (.violation violation))) service.store
    | .error .deadlineOutOfRange => Ends settings service ⟨.reserve orderId lines, readings⟩
        (.error .deadlineOutOfRange) service.store
    | .ok reservation => Ends settings service ⟨.reserve orderId lines, readings⟩
        ((MemoryStore.answer (.reserve reservation) service.store).1.mapError .stock)
        (MemoryStore.answer (.reserve reservation) service.store).2 := by
  rcases reserve_cases settings service readings orderId lines with
    ⟨cause, hcause, _⟩ | ⟨found, hfound, hends⟩
  · cases hchecked.symm.trans hcause
  · obtain rfl : checked = found := Except.ok.inj (hchecked.symm.trans hfound)
    exact hends

variable {settings service readings} in
/-- A request for stock that succeeds has made a reservation, and holds its stock. -/
theorem holds_of_reserve (hkeyed : service.store.Keyed) {orderId : String}
    {lines : List RequestedLine} {reservation : Reservation}
    (hreserved : (Step.perform settings ⟨.reserve orderId lines, readings⟩ service).1 =
      .ok reservation) :
    ∃ checked, lines.mapM Service.reservationLine = .ok checked ∧
      Reservation.make (service.around.supply service.around.drawn) orderId checked
        settings.holdFor (readings 1).clock = .ok reservation ∧
      service.store.Holds reservation
        (Step.perform settings ⟨.reserve orderId lines, readings⟩ service).2.store := by
  rcases reserve_cases settings service readings orderId lines with
    ⟨violation, _, hends⟩ | ⟨checked, hchecked, hends⟩
  · cases hreserved.symm.trans hends.outcome
  · cases hmake : Reservation.make (service.around.supply service.around.drawn) orderId checked
      settings.holdFor (readings 1).clock with
    | error obstacle =>
      rw [hmake] at hends
      cases obstacle <;> cases hreserved.symm.trans hends.outcome
    | ok made =>
      rw [hmake] at hends
      dsimp only at hends
      have hdistinct := (Reservation.isNew_of_make hmake).1.consolidated.distinct
      rcases MemoryStore.reserve_cases hkeyed hdistinct with
        ⟨error, hfailed⟩ | ⟨after, hheld, hholds⟩
      · have hanswer : MemoryStore.answer (.reserve made) service.store =
            (.error error, service.store) := hfailed
        rw [hanswer] at hends
        cases hreserved.symm.trans hends.outcome
      · have hanswer : MemoryStore.answer (.reserve made) service.store = (.ok made, after) := hheld
        rw [hanswer] at hends
        obtain rfl : reservation = made := Except.ok.inj (hreserved.symm.trans hends.outcome)
        rw [hends.store]
        exact ⟨checked, hchecked, hmake, hholds⟩

theorem confirm_ends (id : Uuid) :
    let call := StoreCall.resolve id .confirm (readings 0).clock
    Ends settings service ⟨.confirm id, readings⟩
      ((MemoryStore.answer call service.store).1.mapError .stock)
      (MemoryStore.answer call service.store).2 :=
  ends_of_timed (timed_resolve id .confirm (readings 0).clock _)

theorem release_ends (id : Uuid) :
    let call := StoreCall.resolve id .release (readings 0).clock
    Ends settings service ⟨.release id, readings⟩
      ((MemoryStore.answer call service.store).1.mapError .stock)
      (MemoryStore.answer call service.store).2 :=
  ends_of_timed (timed_resolve id .release (readings 0).clock _)

theorem expire_ends (id : Uuid) (now : Instant) :
    let call := StoreCall.resolve id .expire now
    Ends settings service ⟨.expire id now, readings⟩
      ((MemoryStore.answer call service.store).1.mapError .stock)
      (MemoryStore.answer call service.store).2 :=
  ends_of_timed (timed_resolve id .expire now _)

end Step

/-! ## Reads -/

/-- The calls of a store that only read records and reservations. -/
def StoreCall.IsLook : StoreCall → Prop
  | find _ | findMany _ | lowStock _ _ | findReservation _ | overdue _ _ => True
  | _ => False

theorem MemoryStore.answer_of_isLook {call : StoreCall} (hlook : call.IsLook)
    (store : MemoryStore) : (answer call store).2 = store := by
  cases call <;> first | rfl | exact hlook.elim

/-- Asking the store nothing but what it holds. -/
def ServiceCall.looking : Protocol ServiceRequest ServiceRequest.Answer Unit where
  allows _ request :=
    match request with
    | .store call => call.IsLook
    | .aside _ => True
  expects _ _ _ := True
  next _ _ _ := ()

namespace Operation

/-- The operations that only read. -/
def IsLook : Operation → Prop
  | get _ | check _ _ | bulkCheck _ | lowStock _ _ | getReservation _ | overdue _ _ => True
  | _ => False

theorem looks (settings : ServiceSettings) {operation : Operation} (hlook : operation.IsLook) :
    Conforms ServiceCall.looking (fun _ _ => True) (operation.call settings) () := by
  have hreads : Service.PermitsReads ServiceCall.looking :=
    ⟨fun _ _ => trivial, fun _ _ => trivial, fun _ _ => trivial⟩
  cases operation with
  | get product => exact Service.get_conforms hreads product
  | check product quantity => exact Service.check_conforms hreads product quantity
  | bulkCheck lines => exact Service.bulkCheck_conforms hreads (fun _ _ => trivial) lines
  | lowStock threshold request =>
    exact Service.lowStock_conforms (fun _ _ _ => trivial) threshold request
  | getReservation id => exact Service.getReservation_conforms hreads id
  | overdue asOf limit => exact ⟨trivial, fun _ _ => trivial⟩
  | _ => exact hlook.elim

end Operation

theorem Step.store_of_isLook (settings : ServiceSettings) (service : MemoryService) {step : Step}
    (hlook : step.operation.IsLook) : (step.perform settings service).2.store = service.store := by
  have hkeeps (stage : Unit) (state : MemoryService × Nat) (request : ServiceRequest)
      (hstore : state.1.store = service.store)
      (hallowed : ServiceCall.looking.allows stage request) :
      True ∧ (MemoryService.answerTimed step.readings request state).2.1.store =
        service.store := by
    refine ⟨trivial, ?_⟩
    cases request with
    | store call => exact (MemoryStore.answer_of_isLook hallowed _).trans hstore
    | aside request => exact hstore
  have hstart : (service, 0).1.store = service.store := rfl
  obtain ⟨_, _, hlast⟩ := (Operation.looks settings hlook).run.run hkeeps hstart
  exact hlast

/-! ## Records under their products -/

theorem Step.keyed_perform (settings : ServiceSettings) {service : MemoryService}
    (hkeyed : service.store.Keyed) (step : Step) :
    (step.perform settings service).2.store.Keyed := by
  have hkeeps (request : ServiceRequest) (state : MemoryService × Nat)
      (hstate : state.1.store.Keyed) :
      (MemoryService.answerTimed step.readings request state).2.1.store.Keyed := by
    cases request with
    | store call => exact hstate.answer call
    | aside request => exact hstate
  have hstart : (service, 0).1.store.Keyed := hkeyed
  exact Program.run_keeps hkeeps (step.operation.call settings).run hstart

theorem MemoryService.keyed_after (settings : ServiceSettings) {service : MemoryService}
    (hkeyed : service.store.Keyed) (steps : List Step) :
    (service.after settings steps).store.Keyed := by
  induction steps generalizing service with
  | nil => exact hkeyed
  | cons step rest ih => exact ih (step.keyed_perform settings hkeyed)

end Stockroom
