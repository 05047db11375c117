import Stockroom.Proofs.Concurrency.Redelivery
import Stockroom.Proofs.Service.Failing
import Stockroom.Proofs.Wire.Reply

/-!
# What a service records

Only a delivery records anything: the reply to a command that was carried out,
under a key that has no record yet, unless the reply only reports failing
storage.  What is recorded is read back as it was.
-/

namespace Stockroom

open Program (Conforms goOn goOn_ok goOn_error)
open Dispatch (Stage answering Executed)

/-! ## What is recorded -/

/-- A processed command keeps a reply, in a form that is read back, if it does not only report
failing storage. -/
structure ProcessedCommand.Keeps (processed : ProcessedCommand) (reply : Reply) : Prop where
  form : processed.result = some reply.toJson
  written : reply.IsWritten
  remembered : Dispatch.isRemembered reply = true

/-- Every processed command keeps a reply. -/
def MemoryStore.KeepsReplies (store : MemoryStore) : Prop :=
  ∀ key processed, store.processed.find? key = some processed → ∃ reply, processed.Keeps reply

theorem MemoryStore.processed_answer {call : StoreCall}
    (hother : ∀ command, call ≠ .recordProcessed command) (store : MemoryStore) :
    (answer call store).2.processed = store.processed := by
  apply SortedMap.ext_find?
  intro key
  apply (find?_processed_answer call).resolve_right
  rintro ⟨command, hrecords, _⟩
  exact hother command hrecords

/-- A reply that was kept is replayed with a new address. -/
theorem Dispatch.replay_of_keeps {processed : ProcessedCommand} {reply : Reply}
    (hkeeps : processed.Keeps reply) (stamp : Reply.Stamp) (command : Command) :
    replay stamp command processed.result = reply.replayedFor stamp command := by
  have hread := (Reply.reads_toJson hkeeps.written).ofValue
  rw [replay, hkeeps.form]
  simp only [Option.map_some, hread]

namespace MemoryService

variable {α β : Type} {occasion : Occasion} {key : String}

/-! ## Operations -/

/-- As long as nothing was recorded, the processed commands are as they were. -/
theorem answerOn_keeps_processed {kept : SortedMap String ProcessedCommand} (stage : Stage)
    (state : MemoryService × Nat) (request : ServiceRequest)
    (hkept : stage ≠ .asking ∧ (stage ≠ .finished → state.1.store.processed = kept))
    (hallowed : (answering key).allows stage request) :
    True ∧ (answering key).next stage request (answerOn occasion request state).1 ≠ .asking ∧
      ((answering key).next stage request (answerOn occasion request state).1 ≠ .finished →
        (answerOn occasion request state).2.1.store.processed = kept) := by
  refine ⟨trivial, ?_⟩
  cases request with
  | aside request =>
    rw [Dispatch.next_aside]
    exact hkept
  | store call =>
    by_cases hrecords : ∃ command, call = .recordProcessed command
    · obtain ⟨command, rfl⟩ := hrecords
      have hfinished : (answering key).next stage (.store (.recordProcessed command))
          (answerOn occasion (.store (.recordProcessed command)) state).1 = .finished := by
        cases stage with
        | asking => exact absurd rfl hkept.1
        | _ => rfl
      rw [hfinished]
      exact ⟨by decide, fun hunfinished => absurd rfl hunfinished⟩
    · have hother := not_exists.1 hrecords
      have hworking : stage = .working := by
        cases stage with
        | working => rfl
        | asking => exact absurd rfl hkept.1
        | owing | finished =>
          cases call with
          | recordProcessed command => exact absurd rfl (hother command)
          | _ => exact hallowed.elim
      have hsame : (answerOn occasion (.store call) state).2.1.store.processed = kept := by
        rw [hworking] at hkept
        rw [← hkept.2 (by decide)]
        rcases MemoryStore.answerUnless_cases (occasion.failures state.2) call state.1.store with
          hanswer | ⟨error, hanswer⟩
        · simp only [answerOn, hanswer]
          exact MemoryStore.processed_answer hother _
        · simp only [answerOn, hanswer]
      refine ⟨?_, fun _ => hsame⟩
      rw [hworking, Dispatch.next_working key _ hother]
      split <;> decide

/-- A call that may be part of carrying a command out records nothing. -/
theorem processed_of_executed {call : ServiceCall α}
    (hcall : Conforms (answering key) Executed call .working) (state : MemoryService × Nat) :
    (serve occasion call state).2.1.store.processed = state.1.store.processed := by
  have hstart : Stage.working ≠ .asking ∧
      (Stage.working ≠ .finished → state.1.store.processed = state.1.store.processed) :=
    ⟨by decide, fun _ => rfl⟩
  obtain ⟨last, hexecuted, _, hkept⟩ := hcall.run.run answerOn_keeps_processed hstart
  apply hkept
  rcases hexecuted with rfl | ⟨rfl, _⟩ <;> decide

theorem processed_expireAll (now : Instant) (report : SweepReport)
    (reservations : List Reservation) (state : MemoryService × Nat) :
    (Program.run (answerOn occasion) (Sweep.expireAll now report reservations)
      state).2.1.store.processed = state.1.store.processed := by
  induction reservations generalizing report state with
  | nil => rfl
  | cons reservation rest ih =>
    have hexpires : Conforms (answering "") Executed (Service.expire reservation.id now) .working :=
      Dispatch.resolve_conforms reservation.id .expire now
    have hexpired : (serve occasion (Service.expire reservation.id now)
        state).2.1.store.processed = state.1.store.processed :=
      processed_of_executed hexpires state
    rw [Sweep.expireAll]
    change (Program.run (answerOn occasion) (Program.bind _ _) state).2.1.store.processed = _
    rw [Program.run_bind, ih]
    exact hexpired

/-- No operation records anything. -/
theorem processed_operation (settings : ServiceSettings) (operation : Operation)
    (state : MemoryService × Nat) :
    (serve occasion (operation.call settings) state).2.1.store.processed =
      state.1.store.processed := by
  by_cases hsweep : ∃ now batch, operation = .sweep now batch
  · obtain ⟨now, batch, rfl⟩ := hsweep
    have hasked : (serve occasion (Service.overdue now batch) state).2.1.store.processed =
        state.1.store.processed := by
      rw [Service.overdue, serve_store]
      rcases MemoryStore.answerUnless_cases (occasion.failures state.2) (.overdue now batch)
        state.1.store with hanswer | ⟨error, hanswer⟩
      · rw [hanswer]
        rfl
      · rw [hanswer]
    change (serve occasion (Sweep.once now batch) state).2.1.store.processed = _
    rw [Sweep.once, serve_bind, ← hasked]
    rcases serve occasion (Service.overdue now batch) state with ⟨error | overdue, after⟩
    · rfl
    · rw [goOn_ok, serve_lift]
      exact processed_expireAll now _ overdue after
  · have hsingle (now : Instant) (batch : Nat) (heq : operation = .sweep now batch) : False :=
      hsweep ⟨now, batch, heq⟩
    exact processed_of_executed (Operation.executed settings "" hsingle) state

/-! ## Deliveries -/

/-- The part of a call that succeeds before the rest does. -/
theorem of_serve_bind_ok {call : ServiceCall α} {next : α → ServiceCall β} {value : β}
    {state : MemoryService × Nat} (hended : (serve occasion (call >>= next) state).1 = .ok value) :
    ∃ found after, (serve occasion (next found) after).1 = .ok value := by
  rw [serve_bind] at hended
  rcases hcalled : serve occasion call state with ⟨error | found, after⟩
  · rw [hcalled] at hended
    cases hended
  · rw [hcalled] at hended
    exact ⟨found, after, hended⟩

/-- Whatever a command comes to, its result is written as a canonical value other than null. -/
theorem written_of_execute {settings : ServiceSettings} {command : Command} {result : Json}
    {state : MemoryService × Nat}
    (hexecuted : (serve occasion (Dispatch.execute settings command) state).1 = .ok result) :
    result.IsCanonical ∧ result ≠ .null := by
  rw [Dispatch.execute] at hexecuted
  -- Every kind decodes its payload, makes one call and writes down what that returns.
  split at hexecuted
  all_goals
    obtain ⟨payload, asked, hexecuted⟩ := of_serve_bind_ok hexecuted
    obtain ⟨found, after, hexecuted⟩ := of_serve_bind_ok hexecuted
    cases hexecuted
  · exact ⟨found.isCanonical_toJson, Json.ofMembers_ne_null _⟩
  · exact ⟨found.isCanonical_toResult, Json.ofMembers_ne_null _⟩
  · exact ⟨found.isCanonical_toResult, Json.ofMembers_ne_null _⟩
  · exact ⟨found.isCanonical_toJson, Json.ofMembers_ne_null _⟩
  · exact ⟨Json.isCanonical_map Availability.isCanonical_toJson found, Json.noConfusion⟩

/-- What a delivery is answered with, and the service after it. -/
def deliver (settings : ServiceSettings) (command : Command) (occasion : Occasion)
    (service : MemoryService) : Except CallFailure Reply × MemoryService :=
  performOn occasion (Dispatch.dispatch settings command) service

/-- A command carried out after its key was looked up. -/
def carriedOut (settings : ServiceSettings) (command : Command) (occasion : Occasion)
    (service : MemoryService) : Except CallFailure Json × MemoryService × Nat :=
  serve occasion (Dispatch.execute settings command) (looked occasion (service, 0))

section Deliver

variable (settings : ServiceSettings) (command : Command) (occasion : Occasion)
  {service : MemoryService}

/-- A delivery carries its command out: its reply tells how that ended, and stock and reservations
are as that has left them. -/
structure CarriesOut (service : MemoryService) : Prop where
  reply : match (carriedOut settings command occasion service).1 with
    | .ok result => ∃ stamp, (deliver settings command occasion service).1 =
        .ok (Reply.success stamp command.id command.sagaId (some result))
    | .error (.stock error) => ∃ stamp, (deliver settings command occasion service).1 =
        .ok (Dispatch.failure stamp command error)
    | .error .deadlineOutOfRange => (deliver settings command occasion service).1 =
        .error .deadlineOutOfRange
  inventory : (deliver settings command occasion service).2.store.inventory =
    (carriedOut settings command occasion service).2.1.store.inventory
  reservations : (deliver settings command occasion service).2.store.reservations =
    (carriedOut settings command occasion service).2.1.store.reservations

/-- A delivery that finds a kept reply is answered with it and changes nothing but the stamp. -/
theorem deliver_recorded {processed : ProcessedCommand} {reply : Reply}
    (hrecorded : service.store.processed.find? command.idempotencyKey = some processed)
    (hkeeps : processed.Keeps reply) :
    ∃ stamp, (deliver settings command occasion service).1 = .ok (reply.replayedFor stamp command) ∧
      (deliver settings command occasion service).2.store = service.store ∧
      (deliver settings command occasion service).2.around.cache = service.around.cache := by
  have hserved : serve occasion (Dispatch.dispatch settings command) (service, 0) = _ :=
    serve_dispatch_recorded settings command hrecorded
  rw [Dispatch.replay_of_keeps hkeeps] at hserved
  rw [deliver, performOn, hserved]
  exact ⟨_, rfl, rfl, rfl⟩

/-- A delivery whose key has no record ends as its command does. -/
theorem deliver_new (hnew : service.store.processed.find? command.idempotencyKey = none) :
    (∃ outcome stamp now,
      (carriedOut settings command occasion service).1 = outcome.mapError .stock ∧
        (deliver settings command occasion service).1 =
          .ok (Dispatch.replyTo stamp command outcome) ∧
        (deliver settings command occasion service).2.store =
          settledStore (carriedOut settings command occasion service).2.1.store command
            (Dispatch.replyTo stamp command outcome) now) ∨
      (carriedOut settings command occasion service).1 = .error .deadlineOutOfRange ∧
        (deliver settings command occasion service).1 = .error .deadlineOutOfRange ∧
        (deliver settings command occasion service).2.store =
          (carriedOut settings command occasion service).2.1.store := by
  have hserved : serve occasion (Dispatch.dispatch settings command) (service, 0) =
      serve occasion (Dispatch.answerNew settings command) (looked occasion (service, 0)) :=
    serve_dispatch_new settings command hnew
  rw [deliver, performOn, hserved]
  have hanswers (outcome : Except StockError Json)
      (hended : (carriedOut settings command occasion service).1 = outcome.mapError .stock) :=
    serve_answerNew settings command outcome (Prod.ext hended rfl)
  rcases hended : (carriedOut settings command occasion service).1 with (error | ⟨⟩) | result
  · obtain ⟨last, hanswered, hstore⟩ := hanswers (.error error) hended
    rw [hanswered]
    exact .inl ⟨.error error, _, _, rfl, rfl, hstore⟩
  · rw [serve_answerNew_broken settings command (Prod.ext hended rfl)]
    exact .inr ⟨rfl, rfl, rfl⟩
  · obtain ⟨last, hanswered, hstore⟩ := hanswers (.ok result) hended
    rw [hanswered]
    exact .inl ⟨.ok result, _, _, rfl, rfl, hstore⟩

theorem carriesOut_of_new
    (hnew : service.store.processed.find? command.idempotencyKey = none) :
    CarriesOut settings command occasion service := by
  rcases deliver_new settings command occasion hnew with
    ⟨outcome, stamp, now, hended, hreply, hstore⟩ | ⟨hended, hreply, hstore⟩
  · constructor
    case reply =>
      rw [hended]
      cases outcome with
      | ok result => exact ⟨stamp, hreply⟩
      | error error => exact ⟨stamp, hreply⟩
    case inventory =>
      rw [hstore]
      exact (stock_of_settledStore _ command _ now).1
    case reservations =>
      rw [hstore]
      exact (stock_of_settledStore _ command _ now).2
  · constructor
    case reply =>
      rw [hended]
      exact hreply
    case inventory => rw [hstore]
    case reservations => rw [hstore]

/-- Carrying a command out records nothing, and changes nothing at all if it fails. -/
theorem store_carriedOut (service : MemoryService) :
    (carriedOut settings command occasion service).2.1.store.processed =
      service.store.processed ∧
    ∀ error, (carriedOut settings command occasion service).1 = .error error →
      (carriedOut settings command occasion service).2.1.store = service.store := by
  have hexecutes : Conforms (answering command.idempotencyKey) Executed
      (Dispatch.execute settings command) .working := Dispatch.execute_conforms settings command
  exact ⟨processed_of_executed hexecutes _, fun _ => store_of_executed_error hexecutes⟩

/-- A remembered reply is recorded under a key that has no record. -/
theorem processed_settledStore {store : MemoryStore} {reply : Reply} (now : Instant)
    (hnew : store.processed.find? command.idempotencyKey = none)
    (hremembered : Dispatch.isRemembered reply = true) :
    (settledStore store command reply now).processed =
      store.processed.insert command.idempotencyKey (Dispatch.record command reply now) := by
  have habsent : store.processed.contains (Dispatch.record command reply now).key = false :=
    SortedMap.contains_eq_false_iff.2 hnew
  rw [settledStore, if_pos hremembered, MemoryStore.recordProcessed, habsent]
  rfl

theorem isWritten_replyTo {outcome : Except StockError Json}
    (hended : (carriedOut settings command occasion service).1 = outcome.mapError .stock)
    (stamp : Reply.Stamp) : (Dispatch.replyTo stamp command outcome).IsWritten := by
  cases outcome with
  | ok result =>
    rintro _ ⟨⟩
    exact written_of_execute hended
  | error error => rintro _ ⟨⟩

/-- A delivery whose key has no record either records its reply or records nothing, and then its
reply only reports failing storage and the store is as it was. -/
theorem records_of_new (hnew : service.store.processed.find? command.idempotencyKey = none) :
    (∃ reply now, (deliver settings command occasion service).1 = .ok reply ∧
        reply.IsWritten ∧ Dispatch.isRemembered reply = true ∧
        (deliver settings command occasion service).2.store.processed =
          service.store.processed.insert command.idempotencyKey
            (Dispatch.record command reply now)) ∨
      (deliver settings command occasion service).2.store.processed = service.store.processed ∧
        ∀ reply, (deliver settings command occasion service).1 = .ok reply →
          Dispatch.isRemembered reply = false ∧
            (deliver settings command occasion service).2.store = service.store := by
  obtain ⟨hprocessed, hfailed⟩ := store_carriedOut settings command occasion service
  rcases deliver_new settings command occasion hnew with
    ⟨outcome, stamp, now, hended, hreply, hstore⟩ | ⟨hended, hreply, hstore⟩
  · cases hremembered : Dispatch.isRemembered (Dispatch.replyTo stamp command outcome) with
    | true =>
      left
      refine ⟨_, now, hreply, isWritten_replyTo settings command occasion hended stamp,
        hremembered, ?_⟩
      rw [hstore, processed_settledStore command now (by rw [hprocessed, hnew]) hremembered,
        hprocessed]
    | false =>
      right
      have hkept : (deliver settings command occasion service).2.store =
          (carriedOut settings command occasion service).2.1.store := by
        rw [hstore, settledStore, hremembered]
        rfl
      rw [hkept, hreply]
      refine ⟨hprocessed, ?_⟩
      rintro _ ⟨⟩
      cases outcome with
      | ok result => cases hremembered
      | error error => exact ⟨hremembered, hfailed _ hended⟩
  · right
    rw [hstore, hreply]
    refine ⟨hprocessed, ?_⟩
    rintro reply ⟨⟩

end Deliver

end MemoryService

end Stockroom
