import Stockroom.Proofs.Service.Accounting
import Stockroom.Proofs.Service.Calls
import Stockroom.Proofs.Store.Resolving

/-!
# The life of a reservation

A reservation keeps the terms on which it was made and stays findable.  Of all
the calls that ask for its resolution one is applied at most, and what that
call has settled stays settled: every later one is answered without a change.
-/

namespace Stockroom

/-- Everything about a reservation that is settled when it is made. -/
structure Reservation.SameTerms (left right : Reservation) : Prop where
  id : left.id = right.id
  orderId : left.orderId = right.orderId
  lines : left.lines = right.lines
  createdAt : left.createdAt = right.createdAt
  expiresAt : left.expiresAt = right.expiresAt

namespace Reservation.SameTerms

variable {first second third : Reservation}

theorem refl (reservation : Reservation) : reservation.SameTerms reservation :=
  ⟨rfl, rfl, rfl, rfl, rfl⟩

theorem trans (hfirst : first.SameTerms second) (hsecond : second.SameTerms third) :
    first.SameTerms third :=
  ⟨hfirst.id.trans hsecond.id, hfirst.orderId.trans hsecond.orderId,
    hfirst.lines.trans hsecond.lines, hfirst.createdAt.trans hsecond.createdAt,
    hfirst.expiresAt.trans hsecond.expiresAt⟩

theorem resolved (reservation : Reservation) (resolution : Resolution) (now : Instant) :
    (reservation.resolved resolution now).SameTerms reservation :=
  ⟨rfl, rfl, rfl, rfl, rfl⟩

end Reservation.SameTerms

/-! ## Calls that ask for a resolution -/

/-- What a call that confirms, releases or expires a reservation asks for, and what it returned. -/
structure Asked where
  resolution : Resolution
  now : Instant
  outcome : Except CallFailure Outcome

/-- Such a call was applied. -/
def Asked.isApplied (asked : Asked) : Bool :=
  match asked.outcome with
  | .ok outcome => outcome.wasApplied
  | .error _ => false

namespace MadeCall

/-- What a call asks for a reservation, if it asks for its resolution; one that confirms or releases
does so as of the present. -/
def asked? (settings : ServiceSettings) (id : Uuid) : MadeCall → Option Asked
  | ⟨service, ⟨.confirm sought, readings⟩⟩ =>
    if sought = id then
      some ⟨.confirm, (readings 0).clock,
        (Step.perform settings ⟨.confirm sought, readings⟩ service).1⟩
    else none
  | ⟨service, ⟨.release sought, readings⟩⟩ =>
    if sought = id then
      some ⟨.release, (readings 0).clock,
        (Step.perform settings ⟨.release sought, readings⟩ service).1⟩
    else none
  | ⟨service, ⟨.expire sought now, readings⟩⟩ =>
    if sought = id then
      some ⟨.expire, now, (Step.perform settings ⟨.expire sought now, readings⟩ service).1⟩
    else none
  | _ => none

/-- Whether a call was applied to a reservation. -/
def isApplied (settings : ServiceSettings) (id : Uuid) (made : MadeCall) : Bool :=
  (made.asked? settings id).any Asked.isApplied

/-- The call that returned a new reservation. -/
def Reserved (settings : ServiceSettings) (reservation : Reservation) : MadeCall → Prop
  | ⟨service, ⟨.reserve orderId lines, readings⟩⟩ =>
    (Step.perform settings ⟨.reserve orderId lines, readings⟩ service).1 = .ok reservation
  | _ => False

variable {settings : ServiceSettings} {made : MadeCall} {id : Uuid}

/-- Asking for a resolution is asking the store for it. -/
theorem of_asked {asked : Asked} (hasked : made.asked? settings id = some asked) :
    let call := StoreCall.resolve id asked.resolution asked.now
    asked.outcome = (MemoryStore.answer call made.met.store).1.mapError .stock ∧
      (made.left settings).store = (MemoryStore.answer call made.met.store).2 := by
  rcases made with ⟨service, operation, readings⟩
  cases operation with
  | confirm sought =>
    simp only [asked?, Option.ite_none_right_eq_some, Option.some.injEq] at hasked
    obtain ⟨rfl, rfl⟩ := hasked
    have hends := Step.confirm_ends settings service readings sought
    exact ⟨hends.outcome, hends.store⟩
  | release sought =>
    simp only [asked?, Option.ite_none_right_eq_some, Option.some.injEq] at hasked
    obtain ⟨rfl, rfl⟩ := hasked
    have hends := Step.release_ends settings service readings sought
    exact ⟨hends.outcome, hends.store⟩
  | expire sought now =>
    simp only [asked?, Option.ite_none_right_eq_some, Option.some.injEq] at hasked
    obtain ⟨rfl, rfl⟩ := hasked
    have hends := Step.expire_ends settings service readings sought now
    exact ⟨hends.outcome, hends.store⟩
  | _ => cases hasked

theorem resolves?_ne_of_asked_none (hnone : made.asked? settings id = none) :
    made.step.operation.resolves? ≠ some id := by
  rcases made with ⟨service, operation, readings⟩
  cases operation with
  | confirm sought | release sought | expire sought now =>
    simp only [asked?, ite_eq_right_iff, reduceCtorEq, imp_false] at hnone
    exact fun heq => hnone (Option.some.inj heq)
  | _ => exact nofun

/-- A call that does not ask for the resolution of a reservation keeps it as it is. -/
theorem Sound.found_of_asked_none (hsound : made.Sound) {current : Reservation}
    (hnone : made.asked? settings id = none)
    (hfound : made.met.store.reservations.find? id = some current) :
    (made.left settings).store.reservations.find? id = some current := by
  rcases Step.store_cases settings hsound.single hsound.fresh with
    hsame | ⟨call, hissued, hresolves, hstore⟩
  · rw [left, hsame]
    exact hfound
  · rw [left, hstore]
    refine MemoryStore.find?_answer_of_not_resolve hsound.reachable.balanced hissued ?_ hfound
    exact fun resolution now heq =>
      resolves?_ne_of_asked_none hnone (hresolves id resolution now heq)

/-- What is asked of a resolved reservation is answered without a change. -/
theorem of_asked_terminal {asked : Asked} (hasked : made.asked? settings id = some asked)
    {current : Reservation} (hfound : made.met.store.reservations.find? id = some current)
    (hterminal : current.isPending = false) :
    (made.left settings).store = made.met.store ∧
      asked.outcome = if asked.resolution = .confirm ∧ current.status ≠ .confirmed then
          .error (.stock (.violation (.invalidTransition current.status .confirm)))
        else .ok ⟨.alreadyResolved, current⟩ := by
  obtain ⟨houtcome, hstore⟩ := of_asked hasked
  rw [MemoryStore.answer_resolve_of_terminal hfound hterminal] at houtcome hstore
  refine ⟨hstore, houtcome.trans ?_⟩
  split <;> rfl

theorem not_applied_of_terminal {asked : Asked} (hasked : made.asked? settings id = some asked)
    {current : Reservation} (hfound : made.met.store.reservations.find? id = some current)
    (hterminal : current.isPending = false) : asked.isApplied = false := by
  rw [Asked.isApplied, (of_asked_terminal hasked hfound hterminal).2]
  split
  · rename_i outcome heq
    split at heq <;> cases heq
    rfl
  · rfl

/-- What is asked of a pending reservation is refused without a change, or is applied in time. -/
theorem Sound.of_asked_pending (hsound : made.Sound) {asked : Asked}
    (hasked : made.asked? settings id = some asked) {current : Reservation}
    (hfound : made.met.store.reservations.find? id = some current)
    (hpending : current.isPending = true) :
    (asked.isApplied = false ∧ (made.left settings).store = made.met.store) ∨
      asked.isApplied = true ∧ current.permits asked.resolution asked.now = true ∧
        (made.left settings).store.reservations.find? id =
          some (current.resolved asked.resolution asked.now) := by
  obtain ⟨houtcome, hstore⟩ := of_asked hasked
  rcases MemoryStore.answer_resolve_of_pending hsound.reachable.balanced hfound hpending
      asked.resolution asked.now with ⟨error, heq⟩ | ⟨hpermits, heq, hnow⟩
  · rw [heq] at houtcome hstore
    refine .inl ⟨?_, hstore⟩
    rw [Asked.isApplied, houtcome]
    rfl
  · refine .inr ⟨?_, hpermits, hstore ▸ hnow⟩
    rw [Asked.isApplied, houtcome, heq]
    rfl

/-- What was applied was asked of a pending reservation. -/
theorem pending_of_applied {asked : Asked} (hasked : made.asked? settings id = some asked)
    (happlied : asked.isApplied = true) :
    ∃ current, made.met.store.reservations.find? id = some current ∧
      current.isPending = true := by
  cases hfound : made.met.store.reservations.find? id with
  | none =>
    have houtcome := (of_asked hasked).1
    simp only [MemoryStore.answer, MemoryStore.perform_resolve, hfound] at houtcome
    rw [Asked.isApplied, houtcome] at happlied
    cases happlied
  | some current =>
    refine ⟨current, rfl, ?_⟩
    cases hpending : current.isPending with
    | true => rfl
    | false =>
      rw [not_applied_of_terminal hasked hfound hpending] at happlied
      cases happlied

/-- What a call has applied is found resolved, as it asked for and in time. -/
theorem Sound.resolved_of_applied (hsound : made.Sound) {asked : Asked}
    (hasked : made.asked? settings id = some asked) (happlied : asked.isApplied = true)
    {current : Reservation} (hfound : made.met.store.reservations.find? id = some current) :
    current.permits asked.resolution asked.now = true ∧
      (made.left settings).store.reservations.find? id =
        some (current.resolved asked.resolution asked.now) := by
  obtain ⟨other, hother, hpending⟩ := pending_of_applied hasked happlied
  obtain rfl := Option.some.inj (hfound.symm.trans hother)
  refine ((hsound.of_asked_pending hasked hfound hpending).resolve_left ?_).2
  rw [happlied]
  exact fun hrefused => Bool.noConfusion hrefused.1

/-- A resolved reservation stays as it is. -/
theorem Sound.found_of_terminal (hsound : made.Sound) {current : Reservation}
    (hfound : made.met.store.reservations.find? id = some current)
    (hterminal : current.isPending = false) :
    (made.left settings).store.reservations.find? id = some current := by
  cases hasked : made.asked? settings id with
  | none => exact hsound.found_of_asked_none hasked hfound
  | some asked => rwa [(of_asked_terminal hasked hfound hterminal).1]

/-- A reservation stays findable, on the terms on which it was made. -/
theorem Sound.same_terms (hsound : made.Sound) {current : Reservation}
    (hfound : made.met.store.reservations.find? id = some current) :
    ∃ next, (made.left settings).store.reservations.find? id = some next ∧
      next.SameTerms current := by
  cases hasked : made.asked? settings id with
  | none => exact ⟨current, hsound.found_of_asked_none hasked hfound, .refl current⟩
  | some asked =>
    cases hpending : current.isPending with
    | false => exact ⟨current, hsound.found_of_terminal hfound hpending, .refl current⟩
    | true =>
      rcases hsound.of_asked_pending hasked hfound hpending with ⟨_, hsame⟩ | ⟨_, _, hnow⟩
      · rw [hsame]
        exact ⟨current, hfound, .refl current⟩
      · exact ⟨_, hnow, .resolved current _ _⟩

/-- A new reservation is found as it was returned. -/
theorem Reserved.found (hsound : made.Sound) {reservation : Reservation}
    (hreserved : made.Reserved settings reservation) :
    (made.left settings).store.reservations.find? reservation.id = some reservation := by
  rcases made with ⟨service, operation, readings⟩
  cases operation with
  | reserve orderId lines =>
    have houtcome : (Step.perform settings ⟨.reserve orderId lines, readings⟩ service).1 =
        .ok reservation := hreserved
    obtain ⟨_, _, _, hholds⟩ :=
      Step.holds_of_reserve hsound.reachable.balanced.toKeyed houtcome
    rw [left, hholds.reservations, SortedMap.find?_insert, if_pos rfl]
  | _ => exact hreserved.elim

end MadeCall

/-! ## Runs -/

namespace MemoryService

variable {settings : ServiceSettings} {service : MemoryService} {steps : List Step} {id : Uuid}
  {current : Reservation}

/-- Asking the service for a reservation returns it, whatever the clocks show. -/
def Finds (settings : ServiceSettings) (service : MemoryService) (id : Uuid)
    (reservation : Reservation) : Prop :=
  ∀ readings, (Step.perform settings ⟨.getReservation id, readings⟩ service).1 = .ok reservation

theorem finds_of_found (hfound : service.store.reservations.find? id = some current) :
    service.Finds settings id current := by
  intro readings
  change (timed readings (Service.getReservation id) (service, 0)).1 = .ok current
  rw [Service.getReservation, timed_bind, timed_store, MemoryStore.answer, hfound]
  rfl

/-- The service has a reservation on the terms on which it was made. -/
def Has (reservation : Reservation) (service : MemoryService) : Prop :=
  ∃ current, service.store.reservations.find? reservation.id = some current ∧
    current.SameTerms reservation

theorem SingleRun.keeps_terms (hrun : service.SingleRun settings steps) {reservation : Reservation}
    (hhas : service.Has reservation) : ∀ one ∈ service.made settings steps,
      one.Sound ∧ one.met.Has reservation ∧ (one.left settings).Has reservation := by
  refine hrun.keeps (fun made hsound hmet => ?_) hhas
  obtain ⟨current, hfound, hsame⟩ := hmet
  obtain ⟨next, hnext, hterms⟩ := hsound.same_terms hfound
  exact ⟨next, hnext, hterms.trans hsame⟩

theorem SingleRun.keeps_resolved (hrun : service.SingleRun settings steps)
    (hfound : service.store.reservations.find? id = some current)
    (hterminal : current.isPending = false) : ∀ one ∈ service.made settings steps,
      one.Sound ∧ one.met.store.reservations.find? id = some current ∧
        (one.left settings).store.reservations.find? id = some current := by
  let kept (service : MemoryService) : Prop := service.store.reservations.find? id = some current
  have hkeeps (made : MadeCall) (hsound : made.Sound) (hmet : kept made.met) :
      kept (made.left settings) := hsound.found_of_terminal hmet hterminal
  exact hrun.keeps hkeeps hfound

/-- Nothing is applied to a reservation that has been resolved. -/
theorem SingleRun.countP_applied_of_terminal (hrun : service.SingleRun settings steps)
    (hfound : service.store.reservations.find? id = some current)
    (hterminal : current.isPending = false) :
    (service.made settings steps).countP (MadeCall.isApplied settings id) = 0 := by
  refine List.countP_eq_zero.2 fun one hone happlied => ?_
  obtain ⟨_, hmet, _⟩ := hrun.keeps_resolved hfound hterminal one hone
  obtain ⟨asked, hasked, hasked_applied⟩ := (Option.any_eq_true _ _).1 happlied
  have hrefused := MadeCall.not_applied_of_terminal hasked hmet hterminal
  rw [hasked_applied] at hrefused
  cases hrefused

/-- At most one call of a run is applied to a reservation. -/
theorem SingleRun.countP_applied_le_one (hrun : service.SingleRun settings steps) (id : Uuid) :
    (service.made settings steps).countP (MadeCall.isApplied settings id) ≤ 1 := by
  induction steps generalizing service with
  | nil => exact Nat.zero_le 1
  | cons step rest ih =>
    rw [made, List.countP_cons]
    split
    · rename_i happlied
      obtain ⟨asked, hasked, hasked_applied⟩ := (Option.any_eq_true _ _).1 happlied
      obtain ⟨current, hfound, _⟩ := MadeCall.pending_of_applied hasked hasked_applied
      obtain ⟨_, hnow⟩ := hrun.first.resolved_of_applied hasked hasked_applied hfound
      have hrest := hrun.rest.countP_applied_of_terminal hnow
        (current.isPending_resolved asked.resolution asked.now)
      exact (Nat.add_le_add_right hrest.le 1)
    · exact ih hrun.rest

/-- From the call on that took a reservation, it is found on the same terms. -/
def Remains (settings : ServiceSettings) (reservation : Reservation) (calls : List MadeCall) :
    Prop :=
  ∀ one ∈ calls, ∃ current,
    (one.left settings).Finds settings reservation.id current ∧ current.SameTerms reservation

/-- What was applied to a reservation was asked in time, and stays: every later call that asks for
its resolution changes nothing and reports it as resolved, or a conflict if it would have to be
confirmed and was not. -/
structure Settled (settings : ServiceSettings) (reservation : Reservation) (asked : Asked)
    (resolving : MadeCall) (rest : List MadeCall) : Prop where
  confirmed : asked.resolution = .confirm → ¬ reservation.expiresAt < asked.now
  expired : asked.resolution = .expire → reservation.expiresAt < asked.now
  stays : ∀ one ∈ resolving :: rest, ∃ current,
    (one.left settings).Finds settings reservation.id current ∧
      current.status = asked.resolution.status ∧ current.updatedAt = asked.now
  unchanged : ∀ again ∈ rest, ∀ asking, again.asked? settings reservation.id = some asking →
    (again.left settings).store = again.met.store
  answered : ∀ again ∈ rest, ∀ asking, again.asked? settings reservation.id = some asking →
    if asking.resolution = .confirm ∧ asked.resolution ≠ .confirm then
      ∃ error, asking.outcome = .error (.stock error) ∧ error.kind = .conflict
    else ∃ current, asking.outcome = .ok ⟨.alreadyResolved, current⟩

theorem deadline_of_permits {reservation : Reservation} {resolution : Resolution} {now : Instant}
    (hpermits : reservation.permits resolution now = true) :
    (resolution = .confirm → ¬ reservation.expiresAt < now) ∧
      (resolution = .expire → reservation.expiresAt < now) := by
  constructor
  · rintro rfl
    simpa [Reservation.permits, Reservation.isExpired] using hpermits
  · rintro rfl
    simpa [Reservation.permits, Reservation.isExpired] using hpermits

/-- What was applied by one call of a run is settled over the calls after it. -/
theorem SingleRun.settled {reservation : Reservation} {resolving : MadeCall} {asked : Asked}
    (hsound : resolving.Sound) (hhas : resolving.met.Has reservation)
    (hasked : resolving.asked? settings reservation.id = some asked)
    (happlied : asked.isApplied = true)
    (hrun : (resolving.left settings).SingleRun settings steps) :
    Settled settings reservation asked resolving
      ((resolving.left settings).made settings steps) := by
  obtain ⟨current, hfound, hterms⟩ := hhas
  obtain ⟨hpermits, hnow⟩ := hsound.resolved_of_applied hasked happlied hfound
  have hterminal := current.isPending_resolved asked.resolution asked.now
  have hkept := hrun.keeps_resolved hnow hterminal
  obtain ⟨hconfirmed, hexpired⟩ := deadline_of_permits hpermits
  rw [hterms.expiresAt] at hconfirmed hexpired
  refine ⟨hconfirmed, hexpired, ?_, ?_, ?_⟩
  · refine List.forall_mem_cons.2 ⟨⟨_, finds_of_found hnow, rfl, rfl⟩, fun one hone => ?_⟩
    exact ⟨_, finds_of_found (hkept one hone).2.2, rfl, rfl⟩
  · intro again hagain asking hasking
    exact (MadeCall.of_asked_terminal hasking (hkept again hagain).2.1 hterminal).1
  · intro again hagain asking hasking
    have houtcome := (MadeCall.of_asked_terminal hasking (hkept again hagain).2.1 hterminal).2
    have hstatus : (current.resolved asked.resolution asked.now).status ≠ .confirmed ↔
        asked.resolution ≠ .confirm := by
      cases asked.resolution <;> simp [Reservation.resolved, Resolution.status]
    simp only [hstatus] at houtcome
    split
    · rename_i hconflict
      rw [if_pos hconflict] at houtcome
      exact ⟨_, houtcome, rfl⟩
    · rename_i hagreed
      rw [if_neg hagreed] at houtcome
      exact ⟨_, houtcome⟩

/-- Over any sequence of operations from an empty store, sweeps taken as their single calls: at
most one call is applied to a reservation, a reservation that was taken remains, and what was
applied to it is settled. -/
theorem reservation_lifecycle (settings : ServiceSettings) (lifetime : Option Nat)
    (clock : Instant) (supply : Nat → Uuid) (steps : List Step)
    (hfresh : (start lifetime clock supply).DrawsFresh settings steps) :
    let service := start lifetime clock supply
    let run := service.made settings (service.calls settings steps)
    (∀ id, run.countP (MadeCall.isApplied settings id) ≤ 1) ∧
    ∀ earlier taken later reservation, run = earlier ++ taken :: later →
      taken.Reserved settings reservation →
        Remains settings reservation (taken :: later) ∧
        ∀ between resolving rest asked, later = between ++ resolving :: rest →
          resolving.asked? settings reservation.id = some asked → asked.isApplied = true →
            Settled settings reservation asked resolving rest := by
  intro service run
  have hrun := singleRun_calls settings lifetime clock supply hfresh
  refine ⟨hrun.countP_applied_le_one, ?_⟩
  intro earlier taken later reservation hmade hreserved
  obtain ⟨hsound, steps, rfl, hlater⟩ := hrun.split hmade
  have hfound := hreserved.found hsound
  have hhas : (taken.left settings).Has reservation := ⟨reservation, hfound, .refl reservation⟩
  have hkept := hlater.keeps_terms hhas
  constructor
  · refine List.forall_mem_cons.2 ⟨⟨_, finds_of_found hfound, .refl reservation⟩, ?_⟩
    intro one hone
    obtain ⟨_, _, current, hnow, hterms⟩ := hkept one hone
    exact ⟨current, finds_of_found hnow, hterms⟩
  · intro between resolving rest asked hsplit hasked happlied
    have hmem : resolving ∈ (taken.left settings).made settings steps := by
      rw [hsplit]
      exact List.mem_append_right _ List.mem_cons_self
    obtain ⟨hsound, after, rfl, hafter⟩ := hlater.split hsplit
    exact hafter.settled hsound (hkept resolving hmem).2.1 hasked happlied

/-- An order that was released cannot be confirmed any more. -/
theorem reservation_lifecycle_of_released_order :
    let moment : ClockReading := ⟨0, .epoch, .epoch⟩
    let settings : ServiceSettings := ⟨⟨900000000000⟩⟩
    let steps : List Step := [⟨.create "cup" (some 5) none, fun _ => moment⟩,
      ⟨.reserve "order" [⟨"cup", 3⟩], fun _ => moment⟩,
      ⟨.release (Uuid.ofNat 1), fun _ => moment⟩, ⟨.confirm (Uuid.ofNat 1), fun _ => moment⟩]
    let service := start none .epoch Uuid.ofNat
    let run := service.made settings (service.calls settings steps)
    service.DrawsFresh settings steps ∧
      (∀ id, run.countP (MadeCall.isApplied settings id) ≤ 1) ∧
      ∃ created taken releasing confirming reservation asked,
        run = [created, taken, releasing, confirming] ∧ taken.Reserved settings reservation ∧
        asked.resolution = .release ∧ asked.isApplied = true ∧
        Settled settings reservation asked releasing [confirming] := by
  intro moment settings steps service run
  have hfresh : service.DrawsFresh settings steps :=
    ⟨trivial, fun _ _ => rfl, trivial, trivial, trivial⟩
  obtain ⟨honce, hlife⟩ :=
    reservation_lifecycle settings none .epoch Uuid.ofNat steps hfresh
  let created : MadeCall := ⟨service, ⟨.create "cup" (some 5) none, fun _ => moment⟩⟩
  let taken : MadeCall :=
    ⟨created.left settings, ⟨.reserve "order" [⟨"cup", 3⟩], fun _ => moment⟩⟩
  let releasing : MadeCall :=
    ⟨taken.left settings, ⟨.release (Uuid.ofNat 1), fun _ => moment⟩⟩
  let confirming : MadeCall :=
    ⟨releasing.left settings, ⟨.confirm (Uuid.ofNat 1), fun _ => moment⟩⟩
  have htaken : (Step.perform settings ⟨.reserve "order" [⟨"cup", 3⟩], fun _ => moment⟩
      (created.left settings)).1.toOption.map (·.id) = some (Uuid.ofNat 1) := by
    decide +kernel
  have hreleased : (releasing.asked? settings (Uuid.ofNat 1)).map
      (fun asked => (asked.resolution, asked.isApplied)) = some (.release, true) := by
    decide +kernel
  obtain ⟨reservation, hreserved, hid⟩ := Option.map_eq_some_iff.1 htaken
  obtain ⟨asked, hasked, hanswer⟩ := Option.map_eq_some_iff.1 hreleased
  obtain ⟨hresolution, happlied⟩ := Prod.mk.inj hanswer
  have hsingle : ∀ step ∈ steps, step.IsSingle := by simp [steps, Step.IsSingle]
  have hmade : run = [created, taken, releasing, confirming] :=
    (congrArg (service.made settings) (calls_of_single settings service hsingle)).trans (by
      simp only [steps, made, created, taken, releasing, confirming, MadeCall.left])
  have hheld : taken.Reserved settings reservation := toOption_eq_some_iff.1 hreserved
  refine ⟨hfresh, honce, created, taken, releasing, confirming, reservation, asked, hmade, hheld,
    hresolution, happlied, ?_⟩
  exact (hlife [created] taken [releasing, confirming] reservation hmade hheld).2 []
    releasing [confirming] asked rfl (hid ▸ hasked) happlied

end MemoryService

end Stockroom
