import Stockroom.Proofs.Service.Operation
import Stockroom.Proofs.Service.Request
import Stockroom.Proofs.Store.Balance

/-!
# What the service asks of its store

The service adds only new records and only new reservations, and gives a
reservation the id that it has just drawn.  So whatever operations are carried
out, its store stays within the reachable ones.
-/

namespace Stockroom

/-- What is known of the id of a reservation: nothing, that the next one is free, or that the
one that was drawn is. -/
inductive IdStage where
  | unknown
  | ready
  | drawn (id : Uuid)

namespace ServiceCall

/-- New records and new reservations, the latter under an id that is known to be free. -/
def issuing : Protocol ServiceRequest ServiceRequest.Answer IdStage where
  allows stage request :=
    match request with
    | .store (.create record) => ∃ id product initial threshold now,
        record = StockRecord.create id product initial threshold now
    | .store (.reserve reservation) => reservation.IsNew ∧ stage = .drawn reservation.id
    | _ => True
  expects _ _ _ := True
  next stage request answer :=
    match stage, request, answer with
    | .ready, .aside .freshId, id => .drawn id
    | _, .store _, _ => .unknown
    | stage, .aside _, _ => stage

/-- Such a call issues nothing that the store could not be asked. -/
def Issues (call : ServiceCall α) (stage : IdStage) : Prop :=
  Program.Conforms issuing (fun _ _ => True) call stage

namespace Issues

open Program.Conforms

variable {stage : IdStage}

theorem permitsReads : Service.PermitsReads issuing :=
  ⟨fun _ _ => trivial, fun _ _ => trivial, fun _ _ => trivial⟩

theorem resolve (id : Uuid) (resolution : Resolution) (now : Instant) :
    Issues (Service.resolve id resolution now) stage := by
  refine store_bind trivial (fun outcome _ => ?_) fun _ _ => trivial
  cases happlied : outcome.wasApplied with
  | true =>
    rw [if_pos rfl]
    exact (Service.forgetLines_conforms permitsReads _).bind (fun _ _ _ => .pure trivial)
      fun _ _ _ => trivial
  | false => exact .pure trivial

theorem create (product : String) (initial threshold : Option Int) :
    Issues (Service.create product initial threshold) .unknown := by
  refine obey_bind (fun product _ => ?_) fun _ => trivial
  refine obey_bind (fun initial _ => ?_) fun _ => trivial
  refine obey_bind (fun threshold _ => ?_) fun _ => trivial
  refine aside_bind trivial fun id _ => ?_
  refine aside_bind trivial fun now _ => ?_
  refine store_bind ⟨id, product, initial, threshold, now, rfl⟩ (fun created _ => ?_)
    fun _ _ => trivial
  exact aside_bind trivial fun _ _ => .pure trivial

theorem adjust (product kind : String) (quantity : Int) :
    Issues (Service.adjust product kind quantity) stage := by
  refine obey_bind (fun product _ => ?_) fun _ => trivial
  refine obey_bind (fun adjustment _ => ?_) fun _ => trivial
  refine aside_bind trivial fun now _ => ?_
  refine store_bind trivial (fun updated _ => ?_) fun _ _ => trivial
  exact aside_bind trivial fun _ _ => .pure trivial

theorem setThreshold (product : String) (threshold : Int) :
    Issues (Service.setThreshold product threshold) stage := by
  refine obey_bind (fun product _ => ?_) fun _ => trivial
  refine obey_bind (fun threshold _ => ?_) fun _ => trivial
  refine aside_bind trivial fun now _ => ?_
  refine store_bind trivial (fun updated _ => ?_) fun _ _ => trivial
  exact aside_bind trivial fun _ _ => .pure trivial

theorem delete (product : String) : Issues (Service.delete product) stage := by
  refine obey_bind (fun product _ => ?_) fun _ => trivial
  refine store_bind trivial (fun _ _ => ?_) fun _ _ => trivial
  exact aside_bind trivial fun _ _ => .pure trivial

/-- A reservation is made of valid lines, under the id that was just drawn. -/
theorem reserve (settings : ServiceSettings) (orderId : String) {lines : List RequestedLine}
    (hready : ∀ checked, lines.mapM Service.reservationLine = .ok checked → stage = .ready) :
    Issues (Service.reserve settings orderId lines) stage := by
  refine obey_bind (fun checked hchecked => ?_) fun _ => trivial
  obtain rfl := hready checked hchecked
  refine aside_bind trivial fun id _ => ?_
  refine aside_bind trivial fun now _ => ?_
  cases hmake : Reservation.make id orderId checked settings.holdFor now with
  | error obstacle =>
    cases obstacle with
    | violation violation => exact .refuse trivial
    | deadlineOutOfRange => exact .throw trivial
  | ok reservation =>
    obtain ⟨hnew, rfl⟩ := Reservation.isNew_of_make hmake
    refine store_bind ⟨hnew, rfl⟩ (fun reservation _ => ?_) fun _ _ => trivial
    exact (Service.forgetLines_conforms permitsReads _).bind (fun _ _ _ => .pure trivial)
      fun _ _ _ => trivial

theorem expireAll (now : Instant) (report : SweepReport) (reservations : List Reservation) :
    (Sweep.expireAll now report reservations).Follows issuing (fun _ _ => True) stage := by
  induction reservations generalizing report stage with
  | nil => exact trivial
  | cons reservation rest ih =>
    refine (Program.follows_bind _ _ _).2 ?_
    exact (resolve reservation.id .expire now).run.mono fun _ _ _ => ih _

theorem sweep (now : Instant) (batch : Nat) : Issues (Sweep.once now batch) stage := by
  refine store_bind trivial (fun overdue _ => ?_) fun _ _ => trivial
  refine ⟨(Program.follows_bind _ _ _).2 ?_⟩
  exact (expireAll now _ overdue).mono fun _ _ _ => trivial

end Issues

end ServiceCall

namespace Operation

open ServiceCall

/-- What is known of ids before an operation whose reservation, if it makes one, gets a fresh
one. -/
def idStage : Operation → IdStage
  | .reserve _ lines =>
    match lines.mapM Service.reservationLine with
    | .ok _ => .ready
    | .error _ => .unknown
  | _ => .unknown

theorem issues (settings : ServiceSettings) (operation : Operation) :
    (operation.call settings).Issues operation.idStage := by
  cases operation with
  | create product initial threshold => exact .create product initial threshold
  | get product => exact Service.get_conforms Issues.permitsReads product
  | check product quantity => exact Service.check_conforms Issues.permitsReads product quantity
  | bulkCheck lines =>
    exact Service.bulkCheck_conforms Issues.permitsReads (fun _ _ => trivial) lines
  | adjust product kind quantity => exact .adjust product kind quantity
  | setThreshold product threshold => exact .setThreshold product threshold
  | delete product => exact .delete product
  | lowStock threshold request =>
    exact Service.lowStock_conforms (fun _ _ _ => trivial) threshold request
  | reserve orderId lines =>
    refine .reserve settings orderId fun checked hchecked => ?_
    rw [idStage, hchecked]
  | confirm id => exact .aside_bind trivial fun now _ => Issues.resolve id .confirm now
  | release id => exact .aside_bind trivial fun now _ => Issues.resolve id .release now
  | expire id now => exact .resolve id .expire now
  | getReservation id => exact Service.getReservation_conforms Issues.permitsReads id
  | overdue asOf limit => exact ⟨trivial, fun _ _ => trivial⟩
  | sweep now batch => exact .sweep now batch

end Operation

/-- What a stage says about the ids of a service. -/
def IdStage.Holds (service : MemoryService) : IdStage → Prop
  | .unknown => True
  | .ready =>
    service.store.reservations.find? (service.around.supply service.around.drawn) = none
  | .drawn id => service.store.reservations.find? id = none

namespace MemoryService

theorem issuing_answer {stage : IdStage} {service : MemoryService} {request : ServiceRequest}
    (hreachable : service.store.Reachable) (hstage : stage.Holds service)
    (hallowed : ServiceCall.issuing.allows stage request) :
    (answer request service).2.store.Reachable ∧
      (ServiceCall.issuing.next stage request (answer request service).1).Holds
        (answer request service).2 := by
  cases request with
  | store call =>
    have hissued : call.IsIssued service.store := by
      cases call with
      | create record => exact hallowed
      | reserve reservation =>
        obtain ⟨hnew, rfl⟩ := hallowed
        exact ⟨hnew, hstage⟩
      | _ => exact trivial
    refine ⟨hreachable.answer call hissued, ?_⟩
    cases stage <;> exact trivial
  | aside request =>
    refine ⟨hreachable, ?_⟩
    cases request <;> cases stage <;> exact hstage

/-- One operation after another, the store stays reachable. -/
theorem reachable_perform (settings : ServiceSettings) {step : Step} {service : MemoryService}
    (hfresh : step.DrawsFresh service) (hreachable : service.store.Reachable) :
    (step.perform settings service).2.store.Reachable := by
  have hstage : step.operation.idStage.Holds service := by
    rcases step with ⟨operation, readings⟩
    cases operation with
    | reserve orderId lines =>
      simp only [Operation.idStage]
      split
      · exact hfresh _ ‹_›
      · exact trivial
    | _ => exact trivial
  have hkeeps (stage : IdStage) (state : MemoryService × Nat) (request : ServiceRequest)
      (hrelated : state.1.store.Reachable ∧ stage.Holds state.1)
      (hallowed : ServiceCall.issuing.allows stage request) :
      True ∧ (answerTimed step.readings request state).2.1.store.Reachable ∧
        (ServiceCall.issuing.next stage request (answerTimed step.readings request state).1).Holds
          (answerTimed step.readings request state).2.1 :=
    ⟨trivial, issuing_answer hrelated.1 (by cases stage <;> exact hrelated.2) hallowed⟩
  have hstart : (service, 0).1.store.Reachable ∧ step.operation.idStage.Holds (service, 0).1 :=
    ⟨hreachable, hstage⟩
  obtain ⟨_, _, hlast, _⟩ := (step.operation.issues settings).run.run hkeeps hstart
  exact hlast

end MemoryService

end Stockroom
