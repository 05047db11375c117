import Stockroom.Json.Document
import Stockroom.Proofs.Service.Occasion
import Stockroom.Proofs.Wire.Results

/-!
# Old and new records

A service that replays a command does not know whether the record of it holds
a whole reply or the result alone.  Whatever has answered its requests, it
takes every result that it can come to for a result, and every reply that it
can give for that reply.
-/

namespace Stockroom

open Program (Secures)

namespace Dispatch

/-- A record that holds this result alone is replayed as a success with exactly this result. -/
structure ReplaysResult (result : Json) : Prop where
  refused : ∃ error, Decoder.ofWholeValue Reply.decoder result = .error error
  replayed : ∀ stamp again, replay stamp again (some result) =
    Reply.success stamp again.id again.sagaId (some result)

/-- A record that holds this reply is replayed with the status, the result and the error of what is
read back of it. -/
structure ReplaysReply (reply : Reply) : Prop where
  decoded : Decoder.ofWholeValue Reply.decoder reply.toJson = .ok reply.asRead
  replayed : ∀ stamp again, replay stamp again (some reply.toJson) =
    reply.asRead.replayedFor stamp again

theorem IsResult.replaysResult {result : Json} (hresult : IsResult result) :
    ReplaysResult result := by
  obtain ⟨error, herror⟩ := hresult.decoder_error .ofValue
  constructor
  case refused => exact ⟨error, herror⟩
  case replayed =>
    intro stamp again
    simp only [replay, Option.map_some, herror]

theorem replaysReply {reply : Reply} (hcanonical : reply.IsCanonical) : ReplaysReply reply := by
  have hread := (Reply.recognizes_asRead hcanonical).reads.ofValue
  constructor
  case decoded => exact hread
  case replayed =>
    intro stamp again
    simp only [replay, Option.map_some, hread]

/-- A reply that is replayed has a written result, unless that is what was recorded. -/
theorem replay_cases (stamp : Reply.Stamp) (command : Command) (recorded : Option Json) :
    (replay stamp command recorded).IsWritten ∨
      (replay stamp command recorded).result = recorded := by
  cases recorded with
  | none => exact .inr rfl
  | some value =>
    cases hread : Reply.decoder .ofValue (JsonSource.ofJson value) with
    | error error =>
      right
      simp only [replay, Option.map_some, hread]
      rfl
    | ok reply =>
      left
      simp only [replay, Option.map_some, hread]
      exact Reply.yields_isWritten _ _ reply hread

/-! ## What a service comes to -/

section Runs

variable {State : Type} {answer : (request : ServiceRequest) → State → request.Answer × State}
  {before : State → Prop} {α : Type}

/-- Nothing is claimed of a call. -/
theorem secures_anything (call : ServiceCall α) :
    Secures answer before call fun _ _ => True :=
  fun _ _ _ _ _ => trivial

/-- What is known before a call whatever the state may be used for it. -/
theorem secures_given {known : Prop} {call : ServiceCall α} {after : α → State → Prop}
    (hcall : known → Secures answer (fun _ => True) call after) :
    Secures answer (fun _ => known) call after :=
  fun state value last hknown => hcall hknown state value last trivial

/-- Whatever a command comes to is a result. -/
theorem execute_secures (settings : ServiceSettings) (command : Command) :
    Secures answer before (execute settings command) fun result _ => IsResult result := by
  -- Every kind decodes its payload, makes one call and writes down what that returns.
  have hencodes {α β : Type} {payload : ServiceCall α} {call : α → ServiceCall β}
      {encode : β → Json} (hresult : ∀ value, IsResult (encode value)) :
      Secures answer before (do return encode (← call (← payload))) fun result _ =>
        IsResult result :=
    (secures_anything payload).bind fun order =>
      (secures_anything (call order)).bind fun value => .pure fun _ _ => hresult value
  rw [execute]
  split
  · exact hencodes .reservation
  · exact hencodes .outcome
  · exact hencodes .outcome
  · exact hencodes .record
  · exact hencodes .checked

theorem run_lift (program : ServiceProgram α) (state : State) :
    Program.run answer (ExceptT.lift program : ServiceCall α).run state =
      (.ok (Program.run answer program state).1, (Program.run answer program state).2) := by
  let finish : α → ServiceProgram (Except CallFailure α) := fun value => .done (.ok value)
  exact Program.run_bind answer program finish state

/-- A settled call whose value is known to have a property has it where it has a value. -/
theorem settle_secures {call : ServiceCall α} {after : α → Prop}
    (hcall : Secures answer before call fun value _ => after value) :
    Secures answer before (settle call) fun outcome _ =>
      ∀ value, outcome = .ok value → after value := by
  intro state outcome last hbefore hrun
  rw [settle, Program.run_exceptT_bind, run_lift, Program.goOn_ok] at hrun
  rcases hended : Program.run answer call.run state with ⟨(error | _) | value, between⟩
  · rw [hended] at hrun
    cases hrun
    rintro _ ⟨⟩
  · rw [hended] at hrun
    cases hrun
  · rw [hended] at hrun
    cases hrun
    rintro _ ⟨⟩
    exact hcall state _ _ hbefore hended

/-- A settled request is answered as the request is. -/
theorem settle_store_secures (call : StoreCall) (state : State) :
    Secures answer (· = state) (settle (ServiceCall.store call)) fun outcome _ =>
      outcome = (answer (.store call) state).1 := by
  rintro start outcome last rfl hrun
  have hasked : Program.run answer (ServiceCall.store call).run start =
      ((answer (.store call) start).1.mapError .stock, (answer (.store call) start).2) := rfl
  rw [settle, Program.run_exceptT_bind, run_lift, Program.goOn_ok, hasked] at hrun
  cases hanswered : (answer (.store call) start).1 with
  | ok value =>
    rw [hanswered] at hrun
    cases hrun
    rfl
  | error error =>
    rw [hanswered] at hrun
    cases hrun
    rfl

/-- A reply is returned as it is, whether it is remembered or not. -/
theorem remembering_secures (command : Command) {reply : Reply} {after : Reply → State → Prop}
    (hafter : ∀ state, after reply state) :
    Secures answer before (do
      if isRemembered reply then remember command reply
      return reply) after := by
  dsimp only
  split
  · exact (secures_anything (remember command reply)).bind fun _ => .pure fun state _ =>
      hafter state
  · exact .pure fun state _ => hafter state

/-- A reply to a command that was carried out is written. -/
theorem answerNew_secures (settings : ServiceSettings) (command : Command) :
    Secures answer before (answerNew settings command) fun reply _ => reply.IsWritten := by
  refine (settle_secures (execute_secures settings command)).bind fun outcome => ?_
  refine secures_given fun houtcome => ?_
  refine (secures_anything stamp).bind fun stamp => ?_
  cases outcome with
  | error error =>
    apply remembering_secures
    rintro _ _ ⟨⟩
  | ok result =>
    apply remembering_secures
    rintro _ _ ⟨⟩
    exact (houtcome result rfl).written

/-- A dispatched command is answered with a written reply if no record of it is found, and with
what is replayed from the record otherwise. -/
theorem dispatch_secures (settings : ServiceSettings) (command : Command) (state : State) :
    Secures answer (· = state) (dispatch settings command) fun reply _ =>
      match (answer (.store (.findProcessed command.idempotencyKey)) state).1 with
      | .ok (some processed) => ∃ stamp, reply = replay stamp command processed.result
      | _ => reply.IsWritten := by
  refine (settle_store_secures (.findProcessed command.idempotencyKey) state).bind fun outcome => ?_
  refine secures_given fun hlooked => ?_
  rw [← hlooked]
  rcases outcome with error | _ | processed
  · refine (secures_anything stamp).bind fun stamp => .pure fun _ _ => ?_
    rintro _ ⟨⟩
  · exact answerNew_secures settings command
  · exact (secures_anything stamp).bind fun stamp => .pure fun _ _ => ⟨stamp, rfl⟩

end Runs

/-- Old and new records are never taken for each other.  No result of a command reads as a reply,
so a record that holds one alone is replayed as a success with exactly that result, and whatever a
command comes to is such a result.  Every reply to a command reads as that reply, so a record that
holds it is replayed with its own status, result and error.  It is read back as it was, unless it
was itself replayed from a record of null, which is read back as no result. -/
theorem results_told_from_replies {State : Type}
    (answer : (request : ServiceRequest) → State → request.Answer × State)
    (settings : ServiceSettings) (command : Command) (state : State)
    (hrecorded : ∀ processed,
      (answer (.store (.findProcessed command.idempotencyKey)) state).1 = .ok (some processed) →
        ∀ value ∈ processed.result, value.IsCanonical) :
    (∀ result, IsResult result → ReplaysResult result) ∧
      (∀ result, (Program.run answer (execute settings command).run state).1 = .ok result →
        IsResult result) ∧
      ∀ reply, (Program.run answer (dispatch settings command).run state).1 = .ok reply →
        ReplaysReply reply ∧
          ((∀ processed,
              (answer (.store (.findProcessed command.idempotencyKey)) state).1 =
                .ok (some processed) → processed.result ≠ some .null) →
            reply.asRead = reply) := by
  refine ⟨fun result hresult => hresult.replaysResult, fun result hended => ?_,
    fun reply hended => ?_⟩
  · have hexecuted : Secures answer (fun _ => True) (execute settings command) fun result _ =>
        IsResult result := execute_secures settings command
    exact hexecuted state result _ trivial (Prod.ext hended rfl)
  · have hreply := dispatch_secures settings command state state reply _ rfl (Prod.ext hended rfl)
    split at hreply
    · rename_i processed hfound
      obtain ⟨stamp, rfl⟩ := hreply
      rcases replay_cases stamp command processed.result with hwritten | hsame
      · exact ⟨replaysReply hwritten.isCanonical, fun _ => Reply.asRead_of_isWritten hwritten⟩
      · constructor
        · apply replaysReply
          intro result hresult
          exact hrecorded processed hfound result (hsame ▸ hresult)
        · intro hother
          apply Reply.asRead_of_ne_null
          rw [hsame]
          exact hother processed hfound
    · exact ⟨replaysReply hreply.isCanonical, fun _ => Reply.asRead_of_isWritten hreply⟩

/-- Cups that nobody has heard of cannot be restocked.  The reply that says so is replayed as the
failure that it is, and the empty answer to a stock check as a success. -/
theorem results_told_from_unknown_cups :
    let moment : ClockReading := ⟨0, .epoch, .epoch⟩
    let settings : ServiceSettings := ⟨⟨900000000000⟩⟩
    let payload : AdjustPayload := ⟨"cup", "ADD", 5⟩
    let command : Command :=
      ⟨Uuid.ofNat 8, Uuid.ofNat 7, .adjustStock, payload.toJson, "key", .epoch⟩
    let answer := MemoryService.answerOn (.calm fun _ => moment)
    let state : MemoryService × Nat := (MemoryService.start none .epoch Uuid.ofNat, 0)
    ∃ reply, (Program.run answer (dispatch settings command).run state).1 = .ok reply ∧
      reply.status = .failed ∧ reply.errorKind = some "NotFound" ∧
      (∀ stamp again, replay stamp again (some reply.toJson) = reply.replayedFor stamp again) ∧
      ∀ stamp again, replay stamp again (some (.array [])) =
        Reply.success stamp again.id again.sagaId (some (.array [])) := by
  intro moment settings payload command answer state
  have hfailed : (Program.run answer (dispatch settings command).run state).1.toOption.map
      (fun reply => (reply.status, reply.errorKind)) = some (.failed, some "NotFound") := by
    decide +kernel
  have hnone : (answer (.store (.findProcessed command.idempotencyKey)) state).1 = .ok none := rfl
  have hnothing (processed : ProcessedCommand) :
      (answer (.store (.findProcessed command.idempotencyKey)) state).1 ≠ .ok (some processed) := by
    rw [hnone]
    intro hsome
    cases hsome
  -- From here on nothing about the run has to be computed.
  clear_value state answer command settings
  obtain ⟨reply, hreply, hparts⟩ := Option.map_eq_some_iff.1 hfailed
  obtain ⟨hstatus, hkind⟩ := Prod.ext_iff.1 hparts
  obtain ⟨hresults, _, hreplies⟩ := results_told_from_replies answer settings command state
    fun processed hfound => absurd hfound (hnothing processed)
  obtain ⟨hreplays, hexactly⟩ := hreplies reply (toOption_eq_some_iff.1 hreply)
  have hread : reply.asRead = reply :=
    hexactly fun processed hfound => absurd hfound (hnothing processed)
  refine ⟨reply, toOption_eq_some_iff.1 hreply, hstatus, hkind, ?_, ?_⟩
  · intro stamp again
    rw [hreplays.replayed, hread]
  · exact (hresults _ (.checked [])).replayed

end Dispatch

end Stockroom
