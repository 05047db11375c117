import Stockroom.Proofs.Service.Recording

/-!
# Replayed replies

A service that meets operations and deliveries of commands one after another,
each on an occasion of its own.  A reply stays under its key from the first
delivery that does not fail for storage, and answers all later ones.
-/

namespace Stockroom

/-- An operation or the delivery of a command, with the occasion on which a service meets it. -/
inductive Event where
  | operation (operation : Operation) (occasion : Occasion)
  | delivery (command : Command) (occasion : Occasion)

def Event.Delivers (key : String) : Event → Prop
  | operation _ _ => False
  | delivery command _ => command.idempotencyKey = key

namespace MemoryService

/-- The service after it has met an event. -/
def meet (settings : ServiceSettings) (service : MemoryService) : Event → MemoryService
  | .operation operation occasion => (performOn occasion (operation.call settings) service).2
  | .delivery command occasion => (deliver settings command occasion service).2

/-- The service after it has met events one after another. -/
def meetAll (settings : ServiceSettings) (service : MemoryService) (events : List Event) :
    MemoryService :=
  events.foldl (meet settings) service

variable {settings : ServiceSettings} {service : MemoryService}

/-- An event leaves the records as they are, or adds one of a reply that is delivered. -/
theorem processed_meet (settings : ServiceSettings) (hkeeps : service.store.KeepsReplies)
    (event : Event) :
    (meet settings service event).store.processed = service.store.processed ∨
      ∃ command reply now, event.Delivers command.idempotencyKey ∧
        service.store.processed.find? command.idempotencyKey = none ∧
        (Dispatch.record command reply now).Keeps reply ∧
        (meet settings service event).store.processed =
          service.store.processed.insert command.idempotencyKey
            (Dispatch.record command reply now) := by
  cases event with
  | operation operation occasion => exact .inl (processed_operation settings operation (service, 0))
  | delivery command occasion =>
    cases hrecorded : service.store.processed.find? command.idempotencyKey with
    | some processed =>
      obtain ⟨reply, hreply⟩ := hkeeps _ processed hrecorded
      obtain ⟨_, _, hstore, _⟩ := deliver_recorded settings command occasion hrecorded hreply
      exact .inl (congrArg MemoryStore.processed hstore)
    | none =>
      rcases records_of_new settings command occasion hrecorded with
        ⟨reply, now, _, hwritten, hremembered, hprocessed⟩ | ⟨hprocessed, _⟩
      · exact .inr ⟨command, reply, now, rfl, hrecorded, ⟨rfl, hwritten, hremembered⟩, hprocessed⟩
      · exact .inl hprocessed

theorem keepsReplies_meet (hkeeps : service.store.KeepsReplies) (event : Event) :
    (meet settings service event).store.KeepsReplies := by
  intro key processed hfound
  rcases processed_meet settings hkeeps event with
    hsame | ⟨command, reply, now, _, _, hrecord, hprocessed⟩
  · rw [hsame] at hfound
    exact hkeeps key processed hfound
  · rw [hprocessed, SortedMap.find?_insert] at hfound
    split at hfound
    · cases hfound
      exact ⟨reply, hrecord⟩
    · exact hkeeps key processed hfound

/-- What is recorded stays recorded. -/
theorem recorded_meet (hkeeps : service.store.KeepsReplies) {key : String}
    {processed : ProcessedCommand} (hfound : service.store.processed.find? key = some processed)
    (event : Event) :
    (meet settings service event).store.processed.find? key = some processed := by
  rcases processed_meet settings hkeeps event with
    hsame | ⟨command, reply, now, _, hnew, _, hprocessed⟩
  · rw [hsame, hfound]
  · rw [hprocessed, SortedMap.find?_insert, if_neg, hfound]
    rintro rfl
    rw [hnew] at hfound
    cases hfound

/-- A key without a record gets one only when it is delivered. -/
theorem unrecorded_meet (hkeeps : service.store.KeepsReplies) {key : String}
    (hnew : service.store.processed.find? key = none) {event : Event}
    (hother : ¬ event.Delivers key) :
    (meet settings service event).store.processed.find? key = none := by
  rcases processed_meet settings hkeeps event with
    hsame | ⟨command, reply, now, hdelivers, _, _, hprocessed⟩
  · rw [hsame, hnew]
  · rw [hprocessed, SortedMap.find?_insert, if_neg, hnew]
    rintro rfl
    exact hother hdelivers

theorem keepsReplies_meetAll (hkeeps : service.store.KeepsReplies) (events : List Event) :
    (meetAll settings service events).store.KeepsReplies := by
  induction events generalizing service with
  | nil => exact hkeeps
  | cons event rest ih => exact ih (keepsReplies_meet hkeeps event)

theorem recorded_meetAll (hkeeps : service.store.KeepsReplies) {key : String}
    {processed : ProcessedCommand} (hfound : service.store.processed.find? key = some processed)
    (events : List Event) :
    (meetAll settings service events).store.processed.find? key = some processed := by
  induction events generalizing service with
  | nil => exact hfound
  | cons event rest ih =>
    exact ih (keepsReplies_meet hkeeps event) (recorded_meet hkeeps hfound event)

theorem unrecorded_meetAll (hkeeps : service.store.KeepsReplies) {key : String}
    (hnew : service.store.processed.find? key = none) {events : List Event}
    (hother : ∀ event ∈ events, ¬ event.Delivers key) :
    (meetAll settings service events).store.processed.find? key = none := by
  induction events generalizing service with
  | nil => exact hnew
  | cons event rest ih =>
    rw [List.forall_mem_cons] at hother
    exact ih (keepsReplies_meet hkeeps event) (unrecorded_meet hkeeps hnew hother.1) hother.2

theorem keepsReplies_start (lifetime : Option Nat) (clock : Instant) (supply : Nat → Uuid) :
    (start lifetime clock supply).store.KeepsReplies := by
  rintro key processed ⟨⟩

/-- A reply that does not only report failing storage is kept under the key of its command. -/
theorem kept_of_deliver (hkeeps : service.store.KeepsReplies) {command : Command}
    {occasion : Occasion} {reply : Reply}
    (hreply : (deliver settings command occasion service).1 = .ok reply)
    (hremembered : Dispatch.isRemembered reply = true) :
    ∃ processed kept, processed.Keeps kept ∧ kept.SameOutcome reply ∧
      (deliver settings command occasion service).2.store.processed.find?
        command.idempotencyKey = some processed := by
  cases hrecorded : service.store.processed.find? command.idempotencyKey with
  | some processed =>
    obtain ⟨kept, hkept⟩ := hkeeps _ processed hrecorded
    obtain ⟨stamp, hreplayed, hstore, _⟩ :=
      deliver_recorded settings command occasion hrecorded hkept
    rw [hreplayed] at hreply
    cases hreply
    exact ⟨processed, kept, hkept, ⟨rfl, rfl, rfl, rfl⟩, by rw [hstore, hrecorded]⟩
  | none =>
    rcases records_of_new settings command occasion hrecorded with
      ⟨kept, now, hkept, hwritten, _, hprocessed⟩ | ⟨_, hforgotten⟩
    · rw [hkept] at hreply
      cases hreply
      refine ⟨Dispatch.record command reply now, reply, ⟨rfl, hwritten, hremembered⟩,
        ⟨rfl, rfl, rfl, rfl⟩, ?_⟩
      rw [hprocessed, SortedMap.find?_insert, if_pos rfl]
    · rw [(hforgotten reply hreply).1] at hremembered
      cases hremembered

/-- A reply that only reports failing storage leaves no trace. -/
theorem store_of_deliver_failed (hkeeps : service.store.KeepsReplies) {command : Command}
    {occasion : Occasion} {reply : Reply}
    (hreply : (deliver settings command occasion service).1 = .ok reply)
    (hforgotten : Dispatch.isRemembered reply = false) :
    service.store.processed.find? command.idempotencyKey = none ∧
      (deliver settings command occasion service).2.store = service.store := by
  cases hrecorded : service.store.processed.find? command.idempotencyKey with
  | some processed =>
    obtain ⟨kept, hkept⟩ := hkeeps _ processed hrecorded
    obtain ⟨stamp, hreplayed, _⟩ := deliver_recorded settings command occasion hrecorded hkept
    rw [hreplayed] at hreply
    cases hreply
    exact absurd (hkept.remembered.symm.trans hforgotten) Bool.noConfusion
  | none =>
    refine ⟨rfl, ?_⟩
    rcases records_of_new settings command occasion hrecorded with
      ⟨kept, now, hkept, _, hremembered, _⟩ | ⟨_, hunchanged⟩
    · rw [hkept] at hreply
      cases hreply
      exact absurd (hremembered.symm.trans hforgotten) Bool.noConfusion
    · exact (hunchanged reply hreply).2

/-- A key is answered once and for all.  After a reply that does not only report failing storage,
every delivery of its key reports the same, addressed to the command that is delivered, and changes
neither the store nor the cache.  A reply that only reports failing storage leaves the store as it
was, with no record under the key, and the next delivery of the key carries its command out. -/
theorem replayed_after_reply (settings : ServiceSettings) (lifetime : Option Nat) (clock : Instant)
    (supply : Nat → Uuid) (before : List Event) (first : Command) (occasion : Occasion)
    (reply : Reply) :
    let service := meetAll settings (start lifetime clock supply) before
    let delivered := deliver settings first occasion service
    delivered.1 = .ok reply →
      (reply.errorKind ≠ some FailureKind.storageFailure.word →
        ∀ (between : List Event) (again : Command) (later : Occasion),
          again.idempotencyKey = first.idempotencyKey →
          let found := meetAll settings delivered.2 between
          let redelivered := deliver settings again later found
          ∃ answer, redelivered.1 = .ok answer ∧ answer.SameOutcome reply ∧
            answer.commandId = again.id ∧ answer.sagaId = again.sagaId ∧
            redelivered.2.store = found.store ∧
            redelivered.2.around.cache = found.around.cache) ∧
      (reply.errorKind = some FailureKind.storageFailure.word →
        delivered.2.store = service.store ∧
          service.store.processed.find? first.idempotencyKey = none ∧
          ∀ between : List Event, (∀ event ∈ between, ¬ event.Delivers first.idempotencyKey) →
            ∀ (again : Command) (later : Occasion),
              again.idempotencyKey = first.idempotencyKey →
              CarriesOut settings again later (meetAll settings delivered.2 between)) := by
  intro service delivered hreply
  have hkeeps : service.store.KeepsReplies :=
    keepsReplies_meetAll (keepsReplies_start lifetime clock supply) before
  have hdelivered : delivered.2.store.KeepsReplies :=
    keepsReplies_meet hkeeps (.delivery first occasion)
  constructor
  · intro hkind between again later hsame found redelivered
    have hremembered : Dispatch.isRemembered reply = true := bne_iff_ne.2 hkind
    obtain ⟨processed, kept, hkept, houtcome, hfirst⟩ := kept_of_deliver hkeeps hreply hremembered
    have hfound : found.store.processed.find? again.idempotencyKey = some processed := by
      rw [hsame]
      exact recorded_meetAll hdelivered hfirst between
    obtain ⟨stamp, hanswered, hstore, hcache⟩ :=
      deliver_recorded settings again later hfound hkept
    exact ⟨kept.replayedFor stamp again, hanswered, ⟨houtcome.status, houtcome.result,
      houtcome.error, houtcome.errorKind⟩, rfl, rfl, hstore, hcache⟩
  · intro hkind
    have hforgotten : Dispatch.isRemembered reply = false := by
      rw [Dispatch.isRemembered, hkind, bne_self_eq_false]
    obtain ⟨hnew, hstore⟩ := store_of_deliver_failed hkeeps hreply hforgotten
    refine ⟨hstore, hnew, ?_⟩
    intro between hothers again later hsame
    apply carriesOut_of_new
    rw [hsame]
    apply unrecorded_meetAll hdelivered _ hothers
    rw [hstore, hnew]

/-- Restocking cups fails while storage does, and leaves no trace.  The next delivery carries it
out, and another one is answered with the same reply. -/
theorem replayed_after_restocking :
    let moment : ClockReading := ⟨0, .epoch, .epoch⟩
    let settings : ServiceSettings := ⟨⟨900000000000⟩⟩
    let calm := Occasion.calm fun _ => moment
    let failing : Occasion := ⟨fun _ => moment, fun _ => some (.database "gone")⟩
    let payload : AdjustPayload := ⟨"cup", "ADD", 5⟩
    let first : Command :=
      ⟨Uuid.ofNat 8, Uuid.ofNat 7, .adjustStock, payload.toJson, "key", .epoch⟩
    let again : Command := { first with id := Uuid.ofNat 9 }
    let created : Event := .operation (.create "cup" (some 10) none) calm
    let empty := start none .epoch Uuid.ofNat
    let stocked := meetAll settings empty [created]
    let refused := deliver settings first failing stocked
    let accepted := deliver settings again calm refused.2
    let replayed := deliver settings first calm accepted.2
    (∃ reply, refused.1 = .ok reply ∧
        reply.errorKind = some FailureKind.storageFailure.word ∧
        refused.2.store = stocked.store ∧ CarriesOut settings again calm refused.2) ∧
      ∃ reply answer, accepted.1 = .ok reply ∧ reply.status = .success ∧
        reply.errorKind ≠ some FailureKind.storageFailure.word ∧
        replayed.1 = .ok answer ∧ answer.SameOutcome reply ∧ answer.commandId = first.id ∧
        replayed.2.store = accepted.2.store := by
  intro moment settings calm failing payload first again created empty stocked refused accepted
    replayed
  have hrefused : refused.1.toOption.map (·.errorKind) =
      some (some FailureKind.storageFailure.word) := by decide +kernel
  have haccepted : accepted.1.toOption.map (fun reply => (reply.status, reply.errorKind)) =
      some (.success, none) := by decide +kernel
  have hsame : again.idempotencyKey = first.idempotencyKey := rfl
  -- From here on nothing about the run has to be computed.
  clear_value again first payload created calm failing settings
  obtain ⟨reply, hreply, hkind⟩ := Option.map_eq_some_iff.1 hrefused
  obtain ⟨success, hsuccess, hparts⟩ := Option.map_eq_some_iff.1 haccepted
  obtain ⟨hstatus, hnone⟩ := Prod.ext_iff.1 hparts
  have hother : success.errorKind ≠ some FailureKind.storageFailure.word := by
    rw [show success.errorKind = none from hnone]
    exact Option.some_ne_none _ |>.symm
  obtain ⟨hstore, _, hcarried⟩ := (replayed_after_reply settings none .epoch Uuid.ofNat [created]
    first failing reply (toOption_eq_some_iff.1 hreply)).2 hkind
  obtain ⟨answer, hanswer, houtcome, hid, _, hreplayed, _⟩ :=
    (replayed_after_reply settings none .epoch Uuid.ofNat [created, .delivery first failing] again
      calm success (toOption_eq_some_iff.1 hsuccess)).1 hother [] first calm hsame.symm
  exact ⟨⟨reply, toOption_eq_some_iff.1 hreply, hkind, hstore,
    hcarried [] (fun _ hmem => (List.not_mem_nil hmem).elim) again calm hsame⟩,
    success, answer, toOption_eq_some_iff.1 hsuccess, hstatus, hother, hanswer, houtcome, hid,
    hreplayed⟩

end MemoryService

end Stockroom
