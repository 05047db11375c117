import Stockroom.Dispatch
import Stockroom.Proofs.Service.Effects

/-!
# What a dispatch asks for

A dispatch first looks its key up.  Only where nothing is recorded it carries
its command out, which changes the store at most once, and after a change it
has to record its reply before it can end.
-/

namespace Stockroom

open Program (Conforms)

/-- Whether a call of the store changed stock or a reservation, as its answer tells. -/
def StoreCall.hasChanged : (call : StoreCall) → call.Answer → Bool
  | .create _, .ok _ | .adjust _ _ _, .ok _ | .setThreshold _ _ _, .ok _ | .delete _, .ok _
  | .reserve _, .ok _ => true
  | .resolve _ _ _, .ok outcome => outcome.wasApplied
  | _, _ => false

namespace Program.Follows

variable {Request Stage Stage' Value : Type} {Answer : Request → Type}
  {first : Protocol Request Answer Stage} {second : Protocol Request Answer Stage'}

/-- What keeps to one protocol keeps to another, at one stage of it, where everything that the first
allows is allowed and leads nowhere else. -/
theorem within {post : Value → Stage → Prop} {inside : Stage'}
    (hwithin : ∀ stage request, first.allows stage request → second.allows inside request ∧
      ∀ answer, first.expects stage request answer ∧ second.next inside request answer = inside)
    {program : Program Request Answer Value} {stage : Stage}
    (hfollows : program.Follows first post stage) :
    program.Follows second (fun _ last => last = inside) inside := by
  induction program generalizing stage with
  | done value => rfl
  | ask request resume ih =>
    obtain ⟨hallowed, hanswers⟩ := hwithin stage request hfollows.1
    refine ⟨hallowed, fun answer _ => ?_⟩
    rw [(hanswers answer).2]
    exact ih answer (hfollows.2 answer (hanswers answer).1)

end Program.Follows

namespace Dispatch

/-! ## Stages -/

/-- How far a dispatch has come: it has yet to look its key up, it is carrying its command out, it
has changed the store and has yet to record its reply, or it has nothing left to do with the
store. -/
inductive Stage where
  | asking
  | working
  | owing
  | finished
deriving DecidableEq

/-- What a dispatch may ask under its key, and where the answers bring it. -/
def answering (key : String) : Protocol ServiceRequest ServiceRequest.Answer Stage where
  allows stage request :=
    match stage, request with
    | .asking, .store (.findProcessed sought) => sought = key
    | .asking, _ => False
    | _, .aside _ => True
    | .working, .store (.recordProcessed command) | .owing, .store (.recordProcessed command) =>
      command.key = key
    | .working, .store (.findProcessed _) => False
    | .working, .store _ => True
    | _, _ => False
  expects _ _ _ := True
  next stage request answer :=
    match stage, request, answer with
    | .asking, .store (.findProcessed _), .ok none => .working
    | .asking, .store (.findProcessed _), _ => .finished
    | _, .store (.recordProcessed _), _ => .finished
    | .working, .store call, answer => if call.hasChanged answer then .owing else .working
    | stage, _, _ => stage

variable {key : String} {α : Type}

theorem looking_working (stage : Unit) (request : ServiceRequest)
    (hallowed : ServiceCall.looking.allows stage request) :
    (answering key).allows .working request ∧ ∀ answer,
      ServiceCall.looking.expects stage request answer ∧
        (answering key).next .working request answer = .working := by
  cases request with
  | aside request => exact ⟨trivial, fun _ => ⟨trivial, rfl⟩⟩
  | store call =>
    cases call with
    | find _ | findMany _ | lowStock _ _ | findReservation _ | overdue _ _ =>
      exact ⟨trivial, fun _ => ⟨trivial, rfl⟩⟩
    | _ => exact hallowed.elim

theorem next_working (key : String) {call : StoreCall} (answer : call.Answer)
    (hother : ∀ command, call ≠ .recordProcessed command) :
    (answering key).next .working (.store call) answer =
      if call.hasChanged answer then .owing else .working := by
  cases call with
  | recordProcessed command => exact absurd rfl (hother command)
  | _ => rfl

theorem next_aside (stage : Stage) (request : LocalRequest) (answer : request.Answer) :
    (answering key).next stage (.aside request) answer = stage := by
  cases stage <;> rfl

/-- Every answer leads on from where a dispatch has yet to look its key up. -/
theorem next_ne_asking {stage : Stage} {request : ServiceRequest}
    (hallowed : (answering key).allows stage request) (answer : request.Answer) :
    (answering key).next stage request answer ≠ .asking := by
  cases request with
  | aside request =>
    rw [next_aside]
    rintro rfl
    exact hallowed
  | store call =>
    cases stage with
    | asking =>
      cases call with
      | findProcessed sought => rcases answer with error | _ | processed <;> nofun
      | _ => exact hallowed.elim
    | working =>
      cases call with
      | recordProcessed command => nofun
      | _ =>
        rw [next_working key answer fun _ => nofun]
        split <;> nofun
    | owing =>
      cases call with
      | recordProcessed command => nofun
      | _ => exact hallowed.elim
    | finished => exact hallowed.elim

/-- Forgetting products is possible at any stage after the key was looked up. -/
theorem forgetLines_conforms {stage : Stage} (hasked : stage ≠ .asking)
    (lines : List ReservationLine) :
    Conforms (answering key) (fun outcome last => outcome = .ok () ∧ last = stage)
      (Service.forgetLines lines) stage := by
  induction lines with
  | nil => exact .pure ⟨rfl, rfl⟩
  | cons line rest ih =>
    refine .aside_bind ?_ fun _ _ => ?_
    · cases stage with
      | asking => exact hasked rfl
      | _ => trivial
    · rw [next_aside]
      exact ih

/-- A command that is carried out changes the store at most once, and then succeeds. -/
def Executed (outcome : Except CallFailure α) (last : Stage) : Prop :=
  last = .working ∨ last = .owing ∧ ∃ value, outcome = .ok value

/-- Once the store has changed, forgetting products and returning is all that remains. -/
theorem forget_and_return (lines : List ReservationLine) (value : α) :
    Conforms (answering key) Executed (do Service.forgetLines lines; return value) .owing := by
  refine (forgetLines_conforms (by decide) lines).bind (fun _ last hlast => ?_) fun _ _ hlast => ?_
  · exact .pure (.inr ⟨hlast.2, value, rfl⟩)
  · cases hlast.1

theorem resolve_conforms (id : Uuid) (resolution : Resolution) (now : Instant) :
    Conforms (answering key) Executed (Service.resolve id resolution now) .working := by
  refine .store_bind trivial (fun outcome _ => ?_) fun _ _ => .inl rfl
  have hnext : (answering key).next .working (.store (.resolve id resolution now)) (.ok outcome) =
      if outcome.wasApplied then .owing else .working := rfl
  rw [hnext]
  cases outcome.wasApplied with
  | false => exact .pure (.inl rfl)
  | true => exact forget_and_return outcome.reservation.lines outcome

theorem adjust_conforms (product kind : String) (quantity : Int) :
    Conforms (answering key) Executed (Service.adjust product kind quantity) .working := by
  refine .obey_bind (fun product _ => ?_) fun _ => .inl rfl
  refine .obey_bind (fun adjustment _ => ?_) fun _ => .inl rfl
  refine .aside_bind trivial fun now _ => ?_
  refine .store_bind trivial (fun updated _ => ?_) fun _ _ => .inl rfl
  exact .aside_bind trivial fun _ _ => .pure (.inr ⟨rfl, updated, rfl⟩)

theorem reserve_conforms (settings : ServiceSettings) (orderId : String)
    (lines : List RequestedLine) :
    Conforms (answering key) Executed (Service.reserve settings orderId lines) .working := by
  refine .obey_bind (fun lines _ => ?_) fun _ => .inl rfl
  refine .aside_bind trivial fun id _ => ?_
  refine .aside_bind trivial fun now _ => ?_
  cases Reservation.make id orderId lines settings.holdFor now with
  | error obstacle =>
    cases obstacle with
    | violation violation => exact .refuse (.inl rfl)
    | deadlineOutOfRange => exact .throw (.inl rfl)
  | ok reservation =>
    refine .store_bind trivial (fun reserved _ => ?_) fun _ _ => .inl rfl
    exact forget_and_return reserved.lines reserved

theorem bulkCheck_conforms (lines : List CheckLine) :
    Conforms (answering key) Executed (Service.bulkCheck lines) .working := by
  have hreads : Service.PermitsReads ServiceCall.looking :=
    ⟨fun _ _ => trivial, fun _ _ => trivial, fun _ _ => trivial⟩
  have hlooks : Conforms ServiceCall.looking (fun _ _ => True) (Service.bulkCheck lines) () :=
    Service.bulkCheck_conforms hreads (fun _ _ => trivial) lines
  exact ⟨(hlooks.run.within looking_working).mono fun _ _ hlast => .inl hlast⟩

/-- What has been carried out may still be put into another form. -/
theorem executed_map {β : Type} {call : ServiceCall α} (convert : α → β)
    (hcall : Conforms (answering key) Executed call .working) :
    Conforms (answering key) Executed (do return convert (← call)) .working := by
  refine hcall.bind (fun value last hlast => .pure ?_) fun _ last hlast => ?_
  · exact hlast.imp_right fun howing => ⟨howing.1, _, rfl⟩
  · refine hlast.imp_right fun howing => ?_
    obtain ⟨_, heq⟩ := howing.2
    cases heq

theorem payload_bind {β : Type} {decode : Decoder α} {command : Command}
    {next : α → ServiceCall β}
    (hnext : ∀ value, Conforms (answering key) Executed (next value) .working) :
    Conforms (answering key) Executed (payload decode command >>= next) .working := by
  rw [payload]
  split
  · exact ⟨(hnext _).run⟩
  · exact .refuse (.inl rfl)

theorem execute_conforms (settings : ServiceSettings) (command : Command) :
    Conforms (answering key) Executed (execute settings command) .working := by
  rw [execute]
  cases command.kind with
  | reserveStock =>
    exact payload_bind fun order =>
      executed_map Reservation.toJson (reserve_conforms settings order.orderId order.lines)
  | confirmReservation =>
    refine payload_bind fun target => executed_map Outcome.toResult ?_
    exact .aside_bind trivial fun now _ => resolve_conforms target.reservation .confirm now
  | releaseReservation =>
    refine payload_bind fun target => executed_map Outcome.toResult ?_
    exact .aside_bind trivial fun now _ => resolve_conforms target.reservation .release now
  | adjustStock =>
    exact payload_bind fun order =>
      executed_map StockRecord.toJson (adjust_conforms order.product order.kind order.quantity)
  | checkStock =>
    exact payload_bind fun order => executed_map
      (fun checked : List Availability => Json.array (checked.map Availability.toJson))
      (bulkCheck_conforms order.lines)

/-! ## Whole dispatches -/

variable {β : Type} {post : Except CallFailure β → Stage → Prop}

theorem settle_bind {Stage : Type} {protocol : Protocol ServiceRequest ServiceRequest.Answer Stage}
    {stage : Stage} {middle : Except CallFailure α → Stage → Prop}
    {post : Except CallFailure β → Stage → Prop} {call : ServiceCall α}
    {next : Except StockError α → ServiceCall β} (hcall : Conforms protocol middle call stage)
    (hok : ∀ value last, middle (.ok value) last → Conforms protocol post (next (.ok value)) last)
    (hfailed : ∀ error last, middle (.error (.stock error)) last →
      Conforms protocol post (next (.error error)) last)
    (hbroken : ∀ last, middle (.error .deadlineOutOfRange) last →
      post (.error .deadlineOutOfRange) last) :
    Conforms protocol post (settle call >>= next) stage := by
  refine ⟨(Program.follows_bind _ _ _).2 ((Program.follows_bind _ _ _).2
    ((Program.follows_bind _ _ _).2 (hcall.run.mono fun outcome last hmiddle => ?_)))⟩
  rcases outcome with (error | ⟨⟩) | value
  · exact (hfailed error last hmiddle).run
  · exact hbroken last hmiddle
  · exact (hok value last hmiddle).run

/-- No change is left without a recorded reply. -/
def Settled (_ : Except CallFailure β) (last : Stage) : Prop :=
  last ≠ .owing

theorem stamp_bind {stage : Stage} (hasked : stage ≠ .asking) {next : Reply.Stamp → ServiceCall β}
    (hnext : ∀ stamp, Conforms (answering key) post (next stamp) stage) :
    Conforms (answering key) post (stamp >>= next) stage := by
  have hallowed (request : LocalRequest) : (answering key).allows stage (.aside request) := by
    cases stage with
    | asking => exact hasked rfl
    | _ => trivial
  refine ⟨hallowed .freshId, fun id _ => ⟨?_, fun now _ => ?_⟩⟩
  · rw [next_aside]
    exact hallowed .wallClock
  · rw [next_aside, next_aside]
    exact (hnext ⟨id, now⟩).run

theorem remember_conforms (command : Command) (reply : Reply) {stage : Stage}
    (hworking : stage = .working ∨ stage = .owing) :
    Conforms (answering command.idempotencyKey) (fun _ last => last = .finished)
      (remember command reply) stage := by
  rcases hworking with rfl | rfl
  · exact ⟨trivial, fun now _ => ⟨rfl, fun recorded _ => rfl⟩⟩
  · exact ⟨trivial, fun now _ => ⟨rfl, fun recorded _ => rfl⟩⟩

/-- A reply is recorded before it is returned, unless it only reports failing storage. -/
theorem reply_conforms (command : Command) (reply : Reply) {stage : Stage}
    (hworking : stage = .working ∨ stage = .owing ∧ isRemembered reply = true) :
    Conforms (answering command.idempotencyKey) Settled
      (do if isRemembered reply then remember command reply
          return reply) stage := by
  cases hremembered : isRemembered reply with
  | true =>
    refine (remember_conforms command reply (hworking.imp_right And.left)).bind
      (fun _ last hlast => .pure ?_) fun _ last hlast => ?_
    · rw [hlast]
      exact nofun
    · rw [hlast]
      exact nofun
  | false =>
    rw [hremembered] at hworking
    rw [hworking.resolve_right fun howing => Bool.false_ne_true howing.2]
    exact .pure nofun

theorem answerNew_conforms (settings : ServiceSettings) (command : Command) :
    Conforms (answering command.idempotencyKey) Settled (answerNew settings command) .working := by
  refine settle_bind (execute_conforms settings command) (fun result last hlast => ?_)
    (fun error last hlast => ?_) fun last hlast => ?_
  · have hasked : last ≠ .asking := by rcases hlast with rfl | ⟨rfl, _⟩ <;> decide
    refine stamp_bind hasked fun stamp => reply_conforms command _ ?_
    exact hlast.imp_right fun howing => ⟨howing.1, rfl⟩
  · obtain rfl : last = .working := hlast.resolve_right fun ⟨_, _, heq⟩ => by cases heq
    exact stamp_bind (by decide) fun stamp => reply_conforms command _ (.inl rfl)
  · obtain rfl : last = .working := hlast.resolve_right fun ⟨_, _, heq⟩ => by cases heq
    exact nofun

/-- A delivery goes to work if no reply is recorded, and does nothing more if one is or if that
cannot be found out. -/
def Looked : Except CallFailure (Option ProcessedCommand) → Stage → Prop
  | .ok none, last => last = .working
  | _, last => last = .finished

theorem dispatch_conforms (settings : ServiceSettings) (command : Command) :
    Conforms (answering command.idempotencyKey) Settled (dispatch settings command) .asking := by
  have hlooked : Conforms (answering command.idempotencyKey) Looked
      (ServiceCall.store (.findProcessed command.idempotencyKey)) .asking := by
    refine ⟨rfl, fun answer _ => ?_⟩
    rcases answer with error | (_ | processed) <;> rfl
  refine settle_bind hlooked (fun found last hlast => ?_) (fun error last hlast => ?_)
    fun last hlast => ?_
  · cases found with
    | none =>
      rw [show last = .working from hlast]
      exact answerNew_conforms settings command
    | some processed =>
      rw [show last = .finished from hlast]
      exact stamp_bind (by decide) fun stamp => .pure nofun
  · rw [show last = .finished from hlast]
    exact stamp_bind (by decide) fun stamp => .pure nofun
  · rw [show last = .finished from hlast]
    exact nofun

/-- Asking for one key, under which one reply is recorded. -/
def replaying (key : String) (processed : ProcessedCommand) :
    Protocol ServiceRequest ServiceRequest.Answer Unit where
  allows _ request :=
    match request with
    | .store (.findProcessed sought) => sought = key
    | .store _ => False
    | .aside _ => True
  expects _ request answer :=
    match request, answer with
    | .store (.findProcessed _), answer => answer = .ok (some processed)
    | _, _ => True
  next _ _ _ := ()

/-- A dispatch that finds a recorded reply only looks it up and returns it. -/
theorem replay_conforms (settings : ServiceSettings) (command : Command)
    (processed : ProcessedCommand) :
    Conforms (replaying command.idempotencyKey processed) (fun outcome _ =>
      ∃ stamp, outcome = .ok (replay stamp command processed.result))
      (dispatch settings command) () := by
  refine ⟨rfl, fun answer hanswer => ?_⟩
  cases hanswer
  exact ⟨trivial, fun id _ => ⟨trivial, fun now _ => ⟨⟨id, now⟩, rfl⟩⟩⟩

end Dispatch

end Stockroom
