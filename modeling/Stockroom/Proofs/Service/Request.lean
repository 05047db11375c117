import Stockroom.Proofs.Program
import Stockroom.Service

/-!
# Calls of the service

How a call of the service follows a protocol, construct by construct and in
the order in which it asks, and how it runs whatever answers its requests.
-/

namespace Stockroom.Program.Conforms

variable {Stage α β : Type} {protocol : Protocol ServiceRequest ServiceRequest.Answer Stage}
  {post : Except CallFailure β → Stage → Prop} {stage : Stage}

theorem refuse {error : StockError} (hpost : post (.error (.stock error)) stage) :
    Conforms protocol post (Service.refuse error) stage := ⟨hpost⟩

theorem obey_bind {result : Except Violation α} {next : α → ServiceCall β}
    (hnext : ∀ value, result = .ok value → Conforms protocol post (next value) stage)
    (hviolated : ∀ violation, post (.error (.stock (.violation violation))) stage) :
    Conforms protocol post (Service.obey result >>= next) stage := by
  cases result with
  | ok value => exact ⟨(hnext value rfl).run⟩
  | error violation => exact ⟨hviolated violation⟩

theorem aside_bind {request : LocalRequest} {next : request.Answer → ServiceCall β}
    (hallowed : protocol.allows stage (.aside request))
    (hnext : ∀ answer, protocol.expects stage (.aside request) answer →
      Conforms protocol post (next answer) (protocol.next stage (.aside request) answer)) :
    Conforms protocol post (ServiceCall.aside request >>= next) stage :=
  ⟨hallowed, fun answer hexpected => (hnext answer hexpected).run⟩

theorem store_bind {call : StoreCall} {next : call.Value → ServiceCall β}
    (hallowed : protocol.allows stage (.store call))
    (hnext : ∀ value, protocol.expects stage (.store call) (.ok value) →
      Conforms protocol post (next value) (protocol.next stage (.store call) (.ok value)))
    (hfailed : ∀ error, protocol.expects stage (.store call) (.error error) →
      post (.error (.stock error)) (protocol.next stage (.store call) (.error error))) :
    Conforms protocol post (ServiceCall.store call >>= next) stage := by
  refine ⟨hallowed, fun answer hexpected => ?_⟩
  cases answer with
  | ok value => exact (hnext value hexpected).run
  | error error => exact hfailed error hexpected

end Stockroom.Program.Conforms

/-! ## Calls that read -/

namespace Stockroom.Service

open Program (Conforms)
open Program.Conforms

/-- A protocol that leaves lookups free, and all that is asked of the surroundings. -/
structure PermitsReads {Stage : Type}
    (protocol : Protocol ServiceRequest ServiceRequest.Answer Stage) : Prop where
  aside : ∀ stage request, protocol.allows stage (.aside request)
  find : ∀ stage product, protocol.allows stage (.store (.find product))
  findReservation : ∀ stage id, protocol.allows stage (.store (.findReservation id))

variable {Stage : Type} {protocol : Protocol ServiceRequest ServiceRequest.Answer Stage}
  {stage : Stage}

theorem lookup_conforms (hreads : PermitsReads protocol) (product : ProductId) :
    Conforms protocol (fun _ _ => True) (lookup product) stage := by
  refine aside_bind (hreads.aside _ _) fun cached _ => ?_
  cases cached with
  | some record => exact .pure trivial
  | none =>
    refine aside_bind (hreads.aside _ _) fun generation _ => ?_
    refine store_bind (hreads.find _ _) (fun record _ => ?_) fun _ _ => trivial
    exact aside_bind (hreads.aside _ _) fun _ _ => .pure trivial

theorem get_conforms (hreads : PermitsReads protocol) (product : String) :
    Conforms protocol (fun _ _ => True) (get product) stage := by
  refine obey_bind (fun product _ => ?_) fun _ => trivial
  refine (lookup_conforms hreads product).bind (fun found _ _ => ?_) fun _ _ _ => trivial
  cases found with
  | some found => exact .pure trivial
  | none => exact .refuse trivial

theorem check_conforms (hreads : PermitsReads protocol) (product : String)
    (quantity : Option Int) :
    Conforms protocol (fun _ _ => True) (check product quantity) stage := by
  refine obey_bind (fun product _ => ?_) fun _ => trivial
  refine obey_bind (fun requested _ => ?_) fun _ => trivial
  exact (lookup_conforms hreads product).bind (fun _ _ _ => .pure trivial) fun _ _ _ => trivial

theorem consultCache_conforms (hreads : PermitsReads protocol) (products : List ProductId) :
    Conforms protocol (fun _ _ => True) (consultCache products) stage := by
  induction products generalizing stage with
  | nil => exact .pure trivial
  | cons product rest ih =>
    exact aside_bind (hreads.aside _ _) fun _ _ =>
      ih.bind (fun _ _ _ => .pure trivial) fun _ _ _ => trivial

theorem takeGenerations_conforms (hreads : PermitsReads protocol) (products : List ProductId) :
    Conforms protocol (fun _ _ => True) (takeGenerations products) stage := by
  induction products generalizing stage with
  | nil => exact .pure trivial
  | cons product rest ih =>
    exact aside_bind (hreads.aside _ _) fun _ _ =>
      ih.bind (fun _ _ _ => .pure trivial) fun _ _ _ => trivial

theorem rememberAll_conforms (hreads : PermitsReads protocol) (found : List StockRecord)
    (products : List (ProductId × UInt64)) :
    Conforms protocol (fun _ _ => True) (rememberAll found products) stage := by
  induction products generalizing stage with
  | nil => exact .pure trivial
  | cons product rest ih =>
    exact aside_bind (hreads.aside _ _) fun _ _ =>
      ih.bind (fun _ _ _ => .pure trivial) fun _ _ _ => trivial

theorem forgetLines_conforms (hreads : PermitsReads protocol) (lines : List ReservationLine) :
    Conforms protocol (fun _ _ => True) (forgetLines lines) stage := by
  induction lines generalizing stage with
  | nil => exact .pure trivial
  | cons line rest ih => exact aside_bind (hreads.aside _ _) fun _ _ => ih

theorem lookupMissing_conforms (hreads : PermitsReads protocol)
    (hfindMany : ∀ stage products, protocol.allows stage (.store (.findMany products)))
    (missing : List ProductId) :
    Conforms protocol (fun _ _ => True) (lookupMissing missing) stage := by
  rw [lookupMissing]
  split
  · exact .pure trivial
  · refine (takeGenerations_conforms hreads missing).bind (fun generations _ _ => ?_)
      fun _ _ _ => trivial
    exact store_bind (hfindMany _ _) (fun found _ => rememberAll_conforms hreads found _)
      fun _ _ => trivial

theorem bulkCheck_conforms (hreads : PermitsReads protocol)
    (hfindMany : ∀ stage products, protocol.allows stage (.store (.findMany products)))
    (lines : List CheckLine) :
    Conforms protocol (fun _ _ => True) (bulkCheck lines) stage := by
  refine obey_bind (fun lines _ => ?_) fun _ => trivial
  refine (consultCache_conforms hreads _).bind (fun ⟨cached, missing⟩ _ _ => ?_)
    fun _ _ _ => trivial
  exact (lookupMissing_conforms hreads hfindMany _).bind (fun _ _ _ => .pure trivial)
    fun _ _ _ => trivial

theorem lowStock_conforms
    (hlowStock : ∀ stage threshold request, protocol.allows stage
      (.store (.lowStock threshold request)))
    (threshold : Option Int) (request : PageRequest) :
    Conforms protocol (fun _ _ => True) (lowStock threshold request) stage := by
  rw [lowStock]
  split
  · exact .refuse trivial
  · split
    · exact .refuse trivial
    · refine obey_bind (fun threshold _ => ?_) fun _ => trivial
      exact ⟨hlowStock _ _ _, fun _ _ => trivial⟩

theorem getReservation_conforms (hreads : PermitsReads protocol) (id : Uuid) :
    Conforms protocol (fun _ _ => True) (getReservation id) stage := by
  refine store_bind (hreads.findReservation _ _) (fun found _ => ?_) fun _ _ => trivial
  cases found with
  | some found => exact .pure trivial
  | none => exact .refuse trivial

/-! ## Forgetting products -/

section Forgetting

variable {State α : Type} (answer : (request : ServiceRequest) → State → request.Answer × State)

/-- What is left when the products of lines have been forgotten, one after another. -/
def forgotten (lines : List ReservationLine) (state : State) : State :=
  lines.foldl (fun state line => (answer (.aside (.forget line.product)) state).2) state

/-- Whatever answers, forgetting products succeeds. -/
theorem run_forgetLines (lines : List ReservationLine) (state : State) :
    Program.run answer (forgetLines lines).run state = (.ok (), forgotten answer lines state) := by
  induction lines generalizing state with
  | nil => rfl
  | cons line rest ih => exact ih _

theorem run_forgetLines_return (lines : List ReservationLine) (value : α) (state : State) :
    Program.run answer (do forgetLines lines; return value : ServiceCall α).run state =
      (.ok value, forgotten answer lines state) := by
  rw [Program.run_exceptT_bind, run_forgetLines, Program.goOn_ok]
  rfl

variable {answer}

theorem forgotten_keeps {kept : State → Prop}
    (hstep : ∀ product state, kept state → kept (answer (.aside (.forget product)) state).2)
    (lines : List ReservationLine) {state : State} (hstate : kept state) :
    kept (forgotten answer lines state) := by
  induction lines generalizing state with
  | nil => exact hstate
  | cons line rest ih => exact ih (hstep line.product state hstate)

end Forgetting

end Stockroom.Service
