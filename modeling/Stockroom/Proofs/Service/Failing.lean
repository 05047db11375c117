import Stockroom.Proofs.Service.Delivery
import Stockroom.Proofs.Service.Dispatching
import Stockroom.Proofs.Store.Effects

/-!
# Failing calls

A call of the store that reports no change has made none.  An operation
changes the store with the last request that can fail, so one that fails has
changed nothing, whichever of its requests was turned down.
-/

namespace Stockroom

open Program (Conforms goOn goOn_ok goOn_error)
open Dispatch (Stage answering Executed)

namespace MemoryStore

/-- A resolution that was not applied has changed neither the reservation nor its stock. -/
theorem store_of_not_applied {store : MemoryStore} {id : Uuid} {resolution : Resolution}
    {now : Instant} (hunapplied : ∀ outcome,
      (store.perform (UnitOfWork.resolve id resolution now)).1 = .ok outcome →
        outcome.wasApplied = false) :
    (store.perform (UnitOfWork.resolve id resolution now)).2 = store := by
  rcases store.resolve_writes id resolution now with
    ⟨_, heq⟩ | ⟨_, _, _, heq⟩ | ⟨_, _, _, _, _, _, _, _, heq⟩
  · rw [heq]
  · rw [heq]
  · rw [heq] at hunapplied
    exact Bool.noConfusion (hunapplied _ rfl)

/-- What a call of the store does not report, it has not done. -/
theorem answer_of_not_hasChanged {call : StoreCall} {store : MemoryStore}
    (hother : ∀ command, call ≠ .recordProcessed command)
    (hunchanged : call.hasChanged (answer call store).1 = false) :
    (answer call store).2 = store := by
  cases call with
  | resolve id resolution now =>
    refine store_of_not_applied fun outcome houtcome => ?_
    rwa [show (answer (.resolve id resolution now) store).1 = .ok outcome from houtcome]
      at hunchanged
  | recordProcessed command => exact absurd rfl (hother command)
  | find _ | findMany _ | lowStock _ _ | findReservation _ | overdue _ _ | findProcessed _ => rfl
  | create _ =>
    revert hunchanged
    simp only [answer, create]
    split
    · exact fun _ => rfl
    · exact fun hchanged => Bool.noConfusion hchanged
  | adjust _ _ _ | setThreshold _ _ _ =>
    revert hunchanged
    simp only [answer, UnitOfWork.adjust, UnitOfWork.setThreshold, perform_change]
    repeat' split
    all_goals first | exact fun _ => rfl | exact fun hchanged => Bool.noConfusion hchanged
  | delete _ =>
    revert hunchanged
    simp only [answer, perform_delete]
    repeat' split
    all_goals first | exact fun _ => rfl | exact fun hchanged => Bool.noConfusion hchanged
  | reserve _ =>
    revert hunchanged
    simp only [answer, perform_reserve]
    repeat' split
    all_goals first | exact fun _ => rfl | exact fun hchanged => Bool.noConfusion hchanged

/-- Nor has a call that was turned down done anything. -/
theorem answerUnless_of_not_hasChanged {failure : Option StockError} {call : StoreCall}
    {store : MemoryStore} (hother : ∀ command, call ≠ .recordProcessed command)
    (hunchanged : call.hasChanged (answerUnless failure call store).1 = false) :
    (answerUnless failure call store).2 = store := by
  rcases answerUnless_cases failure call store with hanswer | ⟨error, hanswer⟩
  · rw [hanswer] at hunchanged ⊢
    exact answer_of_not_hasChanged hother hunchanged
  · rw [hanswer]

end MemoryStore

/-! ## Operations -/

namespace Operation

/-- An operation other than a sweep changes the store at most once, and then succeeds. -/
theorem executed (settings : ServiceSettings) {operation : Operation} (key : String)
    (hsingle : ∀ now batch, operation ≠ .sweep now batch) :
    Conforms (answering key) Executed (operation.call settings) .working := by
  have hreads (hlook : operation.IsLook) :
      Conforms (answering key) Executed (operation.call settings) .working :=
    ⟨((looks settings hlook).run.within Dispatch.looking_working).mono fun _ _ => .inl⟩
  cases operation with
  | create product initial threshold =>
    refine .obey_bind (fun product _ => ?_) fun _ => .inl rfl
    refine .obey_bind (fun initial _ => ?_) fun _ => .inl rfl
    refine .obey_bind (fun threshold _ => ?_) fun _ => .inl rfl
    refine .aside_bind trivial fun id _ => .aside_bind trivial fun now _ => ?_
    refine .store_bind trivial (fun created _ => ?_) fun _ _ => .inl rfl
    exact .aside_bind trivial fun _ _ => .pure (.inr ⟨rfl, created, rfl⟩)
  | adjust product kind quantity => exact Dispatch.adjust_conforms product kind quantity
  | setThreshold product threshold =>
    refine .obey_bind (fun product _ => ?_) fun _ => .inl rfl
    refine .obey_bind (fun threshold _ => ?_) fun _ => .inl rfl
    refine .aside_bind trivial fun now _ => ?_
    refine .store_bind trivial (fun updated _ => ?_) fun _ _ => .inl rfl
    exact .aside_bind trivial fun _ _ => .pure (.inr ⟨rfl, updated, rfl⟩)
  | delete product =>
    refine .obey_bind (fun product _ => ?_) fun _ => .inl rfl
    refine .store_bind trivial (fun _ _ => ?_) fun _ _ => .inl rfl
    exact ⟨trivial, fun _ _ => .inr ⟨rfl, (), rfl⟩⟩
  | reserve orderId lines => exact Dispatch.reserve_conforms settings orderId lines
  | confirm id =>
    exact .aside_bind trivial fun now _ => Dispatch.resolve_conforms id .confirm now
  | release id =>
    exact .aside_bind trivial fun now _ => Dispatch.resolve_conforms id .release now
  | expire id now => exact Dispatch.resolve_conforms id .expire now
  | sweep now batch => exact absurd rfl (hsingle now batch)
  | get _ | check _ _ | bulkCheck _ | lowStock _ _ | getReservation _ | overdue _ _ =>
    exact hreads trivial

end Operation

namespace MemoryService

variable {α : Type} {occasion : Occasion} {key : String}

/-- While a call has not reported a change, the store is as it was. -/
theorem answerOn_keeps {store : MemoryStore} (stage : Stage) (state : MemoryService × Nat)
    (request : ServiceRequest)
    (hkept : stage ≠ .asking ∧ (stage = .working → state.1.store = store))
    (_ : (answering key).allows stage request) :
    True ∧ (answering key).next stage request (answerOn occasion request state).1 ≠ .asking ∧
      ((answering key).next stage request (answerOn occasion request state).1 = .working →
        (answerOn occasion request state).2.1.store = store) := by
  refine ⟨trivial, ?_⟩
  cases request with
  | aside request =>
    rw [Dispatch.next_aside]
    exact hkept
  | store call =>
    cases stage with
    | asking => exact absurd rfl hkept.1
    | working =>
      by_cases hrecords : ∃ command, call = .recordProcessed command
      · obtain ⟨command, rfl⟩ := hrecords
        exact ⟨nofun, nofun⟩
      · have hother := not_exists.1 hrecords
        rw [Dispatch.next_working key _ hother]
        cases hchanged : call.hasChanged (answerOn occasion (.store call) state).1 with
        | true => exact ⟨nofun, nofun⟩
        | false =>
          exact ⟨nofun, fun _ =>
            (MemoryStore.answerUnless_of_not_hasChanged hother hchanged).trans (hkept.2 rfl)⟩
    | owing | finished =>
      cases call <;> exact ⟨nofun, nofun⟩

/-- A call that changes the store only if it succeeds leaves it as it was if it fails. -/
theorem store_of_executed_error {call : ServiceCall α}
    (hcall : Conforms (answering key) Executed call .working) {error : CallFailure}
    {state : MemoryService × Nat} (hfailed : (serve occasion call state).1 = .error error) :
    (serve occasion call state).2.1.store = state.1.store := by
  have hstart : Stage.working ≠ .asking ∧
      (Stage.working = .working → state.1.store = state.1.store) := ⟨nofun, fun _ => rfl⟩
  obtain ⟨last, hexecuted, _, hkept⟩ := hcall.run.run answerOn_keeps hstart
  refine hkept (hexecuted.resolve_right ?_)
  rintro ⟨_, value, hvalue⟩
  cases hfailed.symm.trans hvalue

/-- A sweep fails only if it cannot find out what is overdue. -/
theorem store_of_sweep_error {now : Instant} {batch : Nat} {error : CallFailure}
    {state : MemoryService × Nat}
    (hfailed : (serve occasion (Sweep.once now batch) state).1 = .error error) :
    (serve occasion (Sweep.once now batch) state).2.1.store = state.1.store := by
  rw [Sweep.once, serve_bind, Service.overdue, serve_store] at hfailed ⊢
  rcases MemoryStore.answerUnless_cases (occasion.failures state.2) (.overdue now batch)
    state.1.store with hanswer | ⟨refusal, hanswer⟩
  · rw [hanswer] at hfailed
    simp only [MemoryStore.answer, mapError_ok, goOn_ok, serve_lift] at hfailed
    cases hfailed
  · rw [hanswer]
    rfl

/-! ## Deliveries -/

/-- Recording a reply touches neither stock nor reservations. -/
theorem stock_of_settledStore (store : MemoryStore) (command : Command) (reply : Reply)
    (now : Instant) :
    (settledStore store command reply now).inventory = store.inventory ∧
      (settledStore store command reply now).reservations = store.reservations := by
  rw [settledStore, MemoryStore.recordProcessed]
  split
  · split <;> exact ⟨rfl, rfl⟩
  · exact ⟨rfl, rfl⟩

variable {settings : ServiceSettings} {command : Command} {state : MemoryService × Nat}

/-- A command that was carried out and has a failed reply has changed nothing. -/
theorem store_of_failed_answer {reply : Reply}
    (hreply : (serve occasion (Dispatch.answerNew settings command) state).1 = .ok reply)
    (hfailed : reply.status = .failed) :
    ∃ now, (serve occasion (Dispatch.answerNew settings command) state).2.1.store =
      settledStore state.1.store command reply now := by
  have hexecutes : Conforms (answering command.idempotencyKey) Executed
      (Dispatch.execute settings command) .working := Dispatch.execute_conforms settings command
  rcases hexecuted : serve occasion (Dispatch.execute settings command) state with
    ⟨(error | ⟨⟩) | value, after⟩
  · obtain ⟨last, hanswered, hstore⟩ := serve_answerNew settings command (.error error) hexecuted
    have hkept := store_of_executed_error hexecutes (congrArg Prod.fst hexecuted)
    rw [hexecuted] at hkept
    rw [hanswered] at hreply ⊢
    cases hreply
    exact ⟨_, hkept ▸ hstore⟩
  · rw [serve_answerNew_broken settings command hexecuted] at hreply
    cases hreply
  · obtain ⟨last, hanswered, _⟩ := serve_answerNew settings command (.ok value) hexecuted
    rw [hanswered] at hreply
    cases hreply
    cases hfailed

theorem stock_of_failed_reply {reply : Reply}
    (hreply : (serve occasion (Dispatch.dispatch settings command) state).1 = .ok reply)
    (hfailed : reply.status = .failed) :
    (serve occasion (Dispatch.dispatch settings command) state).2.1.store.inventory =
        state.1.store.inventory ∧
      (serve occasion (Dispatch.dispatch settings command) state).2.1.store.reservations =
        state.1.store.reservations := by
  cases hrecorded : state.1.store.processed.find? command.idempotencyKey with
  | some processed =>
    rw [serve_dispatch_recorded settings command hrecorded]
    exact ⟨rfl, rfl⟩
  | none =>
    rw [serve_dispatch_new settings command hrecorded] at hreply ⊢
    obtain ⟨now, hstore⟩ := store_of_failed_answer hreply hfailed
    rw [hstore]
    exact stock_of_settledStore _ _ _ _

/-- Whatever fails leaves storage as it was.  An operation that fails in any way has changed no
record, no reservation and no processed command, and a dispatch whose reply is a failure has
changed no record and no reservation. -/
theorem unchanged_of_failure (settings : ServiceSettings) (service : MemoryService)
    (occasion : Occasion) :
    (∀ (operation : Operation) (error : CallFailure),
      (performOn occasion (operation.call settings) service).1 = .error error →
        (performOn occasion (operation.call settings) service).2.store = service.store) ∧
    ∀ (command : Command) (reply : Reply),
      (performOn occasion (Dispatch.dispatch settings command) service).1 = .ok reply →
      reply.status = .failed →
        (performOn occasion (Dispatch.dispatch settings command) service).2.store.inventory =
            service.store.inventory ∧
          (performOn occasion (Dispatch.dispatch settings command) service).2.store.reservations =
            service.store.reservations := by
  refine ⟨fun operation error hfailed => ?_, fun command reply => stock_of_failed_reply⟩
  by_cases hsweep : ∃ now batch, operation = .sweep now batch
  · obtain ⟨now, batch, rfl⟩ := hsweep
    exact store_of_sweep_error hfailed
  · have hsingle (now : Instant) (batch : Nat) (heq : operation = .sweep now batch) : False :=
      hsweep ⟨now, batch, heq⟩
    exact store_of_executed_error (Operation.executed settings "" hsingle) hfailed

/-- An order of cups and plates, of which there are too few plates: no cup is taken, whether the
order is placed by a call or by a command. -/
theorem unchanged_of_short_plates :
    let moment : ClockReading := ⟨0, .epoch, .epoch⟩
    let settings : ServiceSettings := ⟨⟨900000000000⟩⟩
    let lines : List RequestedLine := [⟨"cup", 4⟩, ⟨"plate", 5⟩]
    let payload : ReservePayload := ⟨"order", lines⟩
    let command : Command :=
      ⟨Uuid.ofNat 8, Uuid.ofNat 7, .reserveStock, payload.toJson, "key", .epoch⟩
    let service := (start none .epoch Uuid.ofNat).after settings
      [⟨.create "cup" (some 10) none, fun _ => moment⟩,
        ⟨.create "plate" (some 1) none, fun _ => moment⟩]
    let occasion := Occasion.calm fun _ => moment
    let placed := performOn occasion ((Operation.reserve "order" lines).call settings) service
    let delivered := performOn occasion (Dispatch.dispatch settings command) service
    (∃ error, placed.1 = .error error ∧ placed.2.store = service.store) ∧
      ∃ reply, delivered.1 = .ok reply ∧ reply.status = .failed ∧
        delivered.2.store.inventory = service.store.inventory ∧
        delivered.2.store.reservations = service.store.reservations := by
  intro moment settings lines payload command service occasion placed delivered
  have hplaced : placed.1.toOption.isNone = true := by decide +kernel
  have hdelivered : delivered.1.toOption.map (·.status) = some .failed := by decide +kernel
  -- From here on nothing about the run has to be computed.
  clear_value service command payload lines settings occasion
  obtain ⟨reply, hreply, hfailed⟩ := Option.map_eq_some_iff.1 hdelivered
  have hanswered : delivered.1 = .ok reply := toOption_eq_some_iff.1 hreply
  obtain ⟨hoperations, hdeliveries⟩ := unchanged_of_failure settings service occasion
  refine ⟨?_, reply, hanswered, hfailed, hdeliveries command reply hanswered hfailed⟩
  cases herror : placed.1 with
  | ok value =>
    rw [herror] at hplaced
    cases hplaced
  | error error => exact ⟨error, rfl, hoperations (.reserve "order" lines) error herror⟩

end MemoryService

end Stockroom
