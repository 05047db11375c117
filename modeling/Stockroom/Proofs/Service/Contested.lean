import Stockroom.Proofs.Service.Contest
import Stockroom.Proofs.Store.Draining

/-!
# What a sweep among other callers counts

Whatever others do between the fetch of a sweep and each of its calls, the
sweep counts every fetched reservation once, for what became of it: expired by
the sweep, resolved by another caller before, or left pending because the stock
of one of its products has no room for its units.  What was reserved becomes
available again once, and unit by unit as it was held.
-/

namespace Stockroom

/-! ## Calls between the fetch and a turn -/

/-- A reservation is as it was when it was fetched, or one of the calls since then was applied to
it. -/
inductive Fate (settings : ServiceSettings) (since : List MadeCall) (reservation : Reservation)
    (service : MemoryService) : Prop
  | stays (hfound : service.store.reservations.find? reservation.id = some reservation)
    (hnone : ∀ call ∈ since, call.isApplied settings reservation.id = false)
  | resolved (current : Reservation)
    (hfound : service.store.reservations.find? reservation.id = some current)
    (hterminal : current.isPending = false)
    (hsome : ∃ call ∈ since, call.isApplied settings reservation.id = true)

namespace Fate

variable {settings : ServiceSettings} {since : List MadeCall} {reservation : Reservation}

/-- One more call leaves the reservation alone or is applied to it. -/
theorem call {made : MadeCall} (hsound : made.Sound) (hpending : reservation.isPending = true)
    (hfate : Fate settings since reservation made.met) :
    Fate settings (since ++ [made]) reservation (made.left settings) := by
  cases hfate with
  | resolved current hfound hterminal hsome =>
    obtain ⟨call, hcall, happlied⟩ := hsome
    exact .resolved current (hsound.found_of_terminal hfound hterminal) hterminal
      ⟨call, List.mem_append_left _ hcall, happlied⟩
  | stays hfound hnone =>
    have hstays (hleft : (made.left settings).store.reservations.find? reservation.id =
        some reservation) (hmade : made.isApplied settings reservation.id = false) :
        Fate settings (since ++ [made]) reservation (made.left settings) :=
      .stays hleft (List.forall_mem_append.2 ⟨hnone, List.forall_mem_singleton.2 hmade⟩)
    cases hasked : made.asked? settings reservation.id with
    | none =>
      apply hstays (hsound.found_of_asked_none hasked hfound)
      rw [MadeCall.isApplied, hasked]
      rfl
    | some asked =>
      have hsame : made.isApplied settings reservation.id = asked.isApplied := by
        rw [MadeCall.isApplied, hasked]
        rfl
      rcases hsound.of_asked_pending hasked hfound hpending with
        ⟨hrefused, hstore⟩ | ⟨happlied, _, hnow⟩
      · exact hstays (hstore ▸ hfound) (hsame.trans hrefused)
      · exact .resolved _ hnow (reservation.isPending_resolved asked.resolution asked.now)
          ⟨made, List.mem_append_right _ List.mem_cons_self, hsame.trans happlied⟩

/-- So does a run of calls. -/
theorem run {service : MemoryService} {steps : List Step} (hrun : service.SingleRun settings steps)
    (hpending : reservation.isPending = true) (hfate : Fate settings since reservation service) :
    Fate settings (since ++ service.made settings steps) reservation
      (service.after settings steps) := by
  induction steps generalizing service since with
  | nil => rwa [MemoryService.made, List.append_nil]
  | cons step rest ih =>
    have hnext := ih hrun.rest (hfate.call hrun.first hpending)
    rwa [List.append_assoc] at hnext

/-- A call that does not ask for the resolution of the reservation changes nothing about it. -/
theorem other {made : MadeCall} (hsound : made.Sound)
    (hnone : made.asked? settings reservation.id = none)
    (hfate : Fate settings since reservation made.met) :
    Fate settings since reservation (made.left settings) := by
  cases hfate with
  | stays hfound hunasked => exact .stays (hsound.found_of_asked_none hnone hfound) hunasked
  | resolved current hfound hterminal hsome =>
    exact .resolved current (hsound.found_of_asked_none hnone hfound) hterminal hsome

end Fate

/-! ## Turns -/

namespace Turn

variable {settings : ServiceSettings} {turn : Turn}

/-- The sweep itself moves the reservation from pending to expired. -/
def Expires (settings : ServiceSettings) (turn : Turn) : Prop :=
  turn.met.store.reservations.find? turn.reservation.id = some turn.reservation ∧
    turn.reservation.isPending = true ∧
    (turn.expiring.left settings).store.reservations.find? turn.reservation.id =
      some (turn.reservation.resolved .expire turn.now)

/-- A call of another caller was applied to the reservation after it was fetched. -/
def ResolvedBefore (settings : ServiceSettings) (turn : Turn) : Prop :=
  ∃ call ∈ turn.since, call.isApplied settings turn.reservation.id = true

/-- The reservation is still pending, and giving back one of its lines would take the available
units of the product beyond the largest quantity. -/
def LacksRoom (turn : Turn) : Prop :=
  turn.met.store.reservations.find? turn.reservation.id = some turn.reservation ∧
    turn.reservation.isPending = true ∧
    ∃ line ∈ turn.reservation.lines, ∃ record ∈ turn.met.store.inventory.find? line.product,
      Quantity.maximum < record.available.value + line.quantity.value

instance : Decidable (turn.Expires settings) :=
  inferInstanceAs (Decidable (_ ∧ _ ∧ _))

instance : Decidable (turn.ResolvedBefore settings) :=
  inferInstanceAs (Decidable (∃ call ∈ turn.since, _))

instance : Decidable turn.LacksRoom :=
  inferInstanceAs (Decidable (_ ∧ _ ∧ ∃ line ∈ turn.reservation.lines,
    ∃ record ∈ turn.met.store.inventory.find? line.product, _))

/-- What is known of a turn when it comes. -/
structure Begins (settings : ServiceSettings) (turn : Turn) : Prop where
  reachable : turn.met.store.Reachable
  pending : turn.reservation.isPending = true
  expired : turn.reservation.isExpired turn.now = true
  fate : Fate settings turn.since turn.reservation turn.met

theorem outcome_eq (turn : Turn) : turn.outcome =
    (MemoryStore.answer (.resolve turn.reservation.id .expire turn.now)
      turn.met.store).1.mapError .stock :=
  (MemoryService.timed_resolve turn.reservation.id .expire turn.now (turn.met, 0)).1

theorem left_eq (settings : ServiceSettings) (turn : Turn) :
    (turn.expiring.left settings).store =
      (MemoryStore.answer (.resolve turn.reservation.id .expire turn.now) turn.met.store).2 :=
  (MemoryService.timed_resolve turn.reservation.id .expire turn.now (turn.met, 0)).2

theorem lacksRoom_iff (hfound : turn.met.store.reservations.find? turn.reservation.id =
      some turn.reservation) (hpending : turn.reservation.isPending = true) :
    turn.LacksRoom ↔ ¬ turn.met.store.HasRoom turn.reservation := by
  simp only [LacksRoom, MemoryStore.HasRoom, hfound, hpending, true_and, Option.mem_def,
    not_forall, not_le, exists_prop]

/-- Which of its three ways a turn goes: a reservation that expires gives back what it held, and
any other turn leaves the store as it was. -/
inductive Ends (settings : ServiceSettings) (turn : Turn) : Prop
  | expired (reservation : Reservation) (hexpires : turn.Expires settings)
    (hresolved : ¬ turn.ResolvedBefore settings) (hlacks : ¬ turn.LacksRoom)
    (houtcome : turn.outcome = .ok ⟨.applied, reservation⟩)
    (hgives : MemoryStore.GivesBack turn.now turn.reservation.quantityOf turn.met.store
      (turn.expiring.left settings).store)
  | alreadyResolved (reservation : Reservation) (hexpires : ¬ turn.Expires settings)
    (hresolved : turn.ResolvedBefore settings) (hlacks : ¬ turn.LacksRoom)
    (houtcome : turn.outcome = .ok ⟨.alreadyResolved, reservation⟩)
    (hleft : (turn.expiring.left settings).store = turn.met.store)
  | failed (error : CallFailure) (hexpires : ¬ turn.Expires settings)
    (hresolved : ¬ turn.ResolvedBefore settings) (hlacks : turn.LacksRoom)
    (houtcome : turn.outcome = .error error)
    (hleft : (turn.expiring.left settings).store = turn.met.store)

/-- A reservation that another caller has resolved is left as it is. -/
theorem ends_of_resolved {current : Reservation} (hpending : turn.reservation.isPending = true)
    (hfound : turn.met.store.reservations.find? turn.reservation.id = some current)
    (hterminal : current.isPending = false) (hsome : turn.ResolvedBefore settings) :
    turn.Ends settings := by
  have houtcome := turn.outcome_eq
  have hleft := turn.left_eq settings
  rw [MemoryStore.answer_resolve_of_terminal hfound hterminal] at houtcome hleft
  have hchanged : turn.met.store.reservations.find? turn.reservation.id ≠
      some turn.reservation := by
    rw [hfound]
    rintro ⟨⟩
    rw [hpending] at hterminal
    cases hterminal
  exact .alreadyResolved current (hchanged ·.1) hsome (hchanged ·.1) houtcome hleft

/-- A reservation that nobody has resolved expires if there is room for its units. -/
theorem ends_of_stays (hbalanced : turn.met.store.Balanced)
    (hpending : turn.reservation.isPending = true)
    (hexpired : turn.reservation.isExpired turn.now = true)
    (hfound : turn.met.store.reservations.find? turn.reservation.id = some turn.reservation)
    (hnone : ¬ turn.ResolvedBefore settings) : turn.Ends settings := by
  have houtcome := turn.outcome_eq
  have hleft := turn.left_eq settings
  have hreturned : Resolution.expire ≠ .confirm := by decide
  rcases MemoryStore.answer_giveBack hbalanced hfound hpending hreturned hexpired with
    ⟨hroom, _⟩ | ⟨hfull, units, _, hanswer⟩
  · obtain ⟨after, hexpires⟩ :=
      hbalanced.expires_of_hasRoom ⟨hfound, hpending, hexpired⟩ hroom
    rw [hexpires.answer] at houtcome hleft
    have hnow : (turn.expiring.left settings).store.reservations.find? turn.reservation.id =
        some (turn.reservation.resolved .expire turn.now) := by
      rw [hleft, hexpires.settles.reservations, SortedMap.find?_insert, if_pos rfl]
    have hlacks : ¬ turn.LacksRoom := by
      rw [lacksRoom_iff hfound hpending, not_not]
      exact hroom
    refine .expired _ ⟨hfound, hpending, hnow⟩ hnone hlacks houtcome ?_
    rw [hleft]
    exact hexpires.givesBack hbalanced hfound
  · rw [hanswer] at houtcome hleft
    have hstays : ¬ turn.Expires settings := by
      rintro ⟨_, _, hnow⟩
      rw [hleft, hfound, Option.some.injEq] at hnow
      have hterminal := turn.reservation.isPending_resolved .expire turn.now
      rw [← hnow, hpending] at hterminal
      cases hterminal
    exact .failed _ hstays hnone ((lacksRoom_iff hfound hpending).2 hfull) houtcome hleft

theorem Begins.ends (hbegins : turn.Begins settings) : turn.Ends settings := by
  cases hbegins.fate with
  | resolved current hfound hterminal hsome =>
    exact ends_of_resolved hbegins.pending hfound hterminal hsome
  | stays hfound hnone =>
    apply ends_of_stays hbegins.reachable.balanced hbegins.pending hbegins.expired hfound
    rintro ⟨call, hcall, happlied⟩
    rw [hnone call hcall] at happlied
    cases happlied

/-- The outcomes of turns are counted by what became of the reservations. -/
theorem count_outcomes {turns : List Turn} (hends : ∀ turn ∈ turns, turn.Ends settings)
    (report : SweepReport) :
    (turns.map outcome).foldl SweepReport.count report =
      ⟨report.examined, report.expired + turns.countP (Expires settings ·),
        report.alreadyResolved + turns.countP (ResolvedBefore settings ·),
        report.failed + turns.countP (LacksRoom ·)⟩ := by
  induction turns generalizing report with
  | nil => rfl
  | cons turn rest ih =>
    obtain ⟨hturn, hrest⟩ := List.forall_mem_cons.1 hends
    rw [List.map_cons, List.foldl_cons, ih hrest]
    cases hturn with
    | expired reservation hexpires hresolved hlacks houtcome _
    | alreadyResolved reservation hexpires hresolved hlacks houtcome _
    | failed error hexpires hresolved hlacks houtcome _ =>
      simp only [houtcome, SweepReport.count, List.countP_cons, hexpires, hresolved, hlacks,
        decide_true, decide_false, Bool.false_eq_true, if_true, if_false, Nat.add_zero,
        Nat.add_assoc, Nat.add_comm 1]

/-- Every turn is counted once. -/
theorem length_eq_counts {turns : List Turn} (hends : ∀ turn ∈ turns, turn.Ends settings) :
    turns.length = turns.countP (Expires settings ·) + turns.countP (ResolvedBefore settings ·) +
      turns.countP (LacksRoom ·) := by
  induction turns with
  | nil => rfl
  | cons turn rest ih =>
    obtain ⟨hturn, hrest⟩ := List.forall_mem_cons.1 hends
    rw [List.length_cons, ih hrest]
    cases hturn with
    | expired reservation hexpires hresolved hlacks _ _
    | alreadyResolved reservation hexpires hresolved hlacks _ _
    | failed error hexpires hresolved hlacks _ _ =>
      simp only [List.countP_cons, hexpires, hresolved, hlacks, decide_true, decide_false,
        Bool.false_eq_true, if_true, if_false]
      omega

end Turn

namespace ContestedSweep

variable {sweep : ContestedSweep} {settings : ServiceSettings}

/-- What is known of the reservations whose turns are still to come. -/
structure Awaits (sweep : ContestedSweep) (settings : ServiceSettings) (since : List MadeCall)
    (reservations : List Reservation) (service : MemoryService) : Prop where
  reachable : service.store.Reachable
  distinct : (reservations.map Reservation.id).Nodup
  pending : ∀ reservation ∈ reservations, reservation.isPending = true
  expired : ∀ reservation ∈ reservations, reservation.isExpired sweep.now = true
  fate : ∀ reservation ∈ reservations, Fate settings since reservation service

/-- Others may do anything. -/
theorem Awaits.others {since : List MadeCall} {reservations : List Reservation}
    {service : MemoryService} (hawaits : sweep.Awaits settings since reservations service)
    {others : List Step} (hfresh : service.DrawsFresh settings others) :
    sweep.Awaits settings (since ++ service.made settings (service.calls settings others))
      reservations (service.after settings others) where
  reachable := MemoryService.reachable_after settings hawaits.reachable hfresh
  distinct := hawaits.distinct
  pending := hawaits.pending
  expired := hawaits.expired
  fate reservation hmem := by
    have hrun : service.SingleRun settings (service.calls settings others) :=
      ⟨MemoryService.single_calls settings service others,
        MemoryService.drawsFresh_calls settings hfresh, hawaits.reachable⟩
    have hafter := (hawaits.fate reservation hmem).run hrun (hawaits.pending reservation hmem)
    rwa [MemoryService.after_calls] at hafter

/-- The turn of the first reservation leaves the later ones alone. -/
theorem Awaits.next {since : List MadeCall} {reservation : Reservation} {rest : List Reservation}
    {service : MemoryService}
    (hawaits : sweep.Awaits settings since (reservation :: rest) service)
    (readings : Nat → ClockReading) :
    sweep.Awaits settings since rest
      (Step.perform settings ⟨.expire reservation.id sweep.now, readings⟩ service).2 := by
  let made : MadeCall := ⟨service, ⟨.expire reservation.id sweep.now, readings⟩⟩
  have hsound : made.Sound := ⟨trivial, trivial, hawaits.reachable⟩
  obtain ⟨hid, hdistinct⟩ := List.nodup_cons.1 hawaits.distinct
  refine ⟨hsound.reachable_left settings, hdistinct,
    (List.forall_mem_cons.1 hawaits.pending).2, (List.forall_mem_cons.1 hawaits.expired).2, ?_⟩
  intro other hother
  have hne : reservation.id ≠ other.id := fun hsame => hid (hsame ▸ List.mem_map_of_mem hother)
  have hunasked : made.asked? settings other.id = none := if_neg hne
  exact (hawaits.fate other (List.mem_cons_of_mem reservation hother)).other hsound hunasked

/-- The turns of fetched reservations begin with what is known of them since the fetch. -/
theorem Awaits.begins {since : List MadeCall} {reservations : List Reservation}
    {state : MemoryService × Nat} (hawaits : sweep.Awaits settings since reservations state.1)
    (hfresh : state.1.DrawsFresh settings
      ((sweep.turnsFrom settings since state reservations).flatMap Turn.steps)) :
    ∀ turn ∈ sweep.turnsFrom settings since state reservations, turn.Begins settings := by
  induction reservations generalizing since state with
  | nil => exact fun _ => nofun
  | cons reservation rest ih =>
    obtain ⟨service, count⟩ := state
    let others := sweep.others count
    let met := service.after settings others
    let made := since ++ service.made settings (service.calls settings others)
    let expired := MemoryService.timed sweep.readings (Service.expire reservation.id sweep.now)
      (met, count)
    let first : Turn := ⟨reservation, others, made, met, sweep.now,
      fun index => sweep.readings (count + index)⟩
    have hturns : sweep.turnsFrom settings since (service, count) (reservation :: rest) =
        first :: sweep.turnsFrom settings made expired.2 rest := rfl
    rw [hturns, List.flatMap_cons, MemoryService.drawsFresh_append, Turn.steps,
      MemoryService.drawsFresh_append, MemoryService.after_append] at hfresh
    obtain ⟨⟨hothers, _⟩, hrest⟩ := hfresh
    -- Others come first, so what is awaited is carried over their steps before the turn begins.
    have hmet : sweep.Awaits settings made (reservation :: rest) met := hawaits.others hothers
    have hleft : expired.2.1 = (first.step.perform settings met).2 :=
      congrArg (fun ended => ended.2.1)
        (MemoryService.perform_expire sweep.readings (met, count) reservation.id sweep.now)
    rw [hturns]
    refine List.forall_mem_cons.2 ⟨⟨hmet.reachable, hmet.pending reservation List.mem_cons_self,
      hmet.expired reservation List.mem_cons_self, hmet.fate reservation List.mem_cons_self⟩, ?_⟩
    apply ih
    · rw [hleft]
      exact hmet.next first.readings
    · rw [hleft]
      exact hrest

/-- What a sweep fetches from a reachable store awaits its turn. -/
theorem awaits_fetched {service : MemoryService} (hreachable : service.store.Reachable)
    (hfresh : service.DrawsFresh settings (sweep.others 0)) :
    sweep.Awaits settings [] (sweep.fetched settings service) (sweep.opened settings service) := by
  have hopened : (sweep.opened settings service).store.Reachable :=
    MemoryService.reachable_after settings hreachable hfresh
  have hready : Sweep.Ready sweep.now (sweep.fetched settings service)
      (sweep.opened settings service).store :=
    Sweep.ready_of_lists hopened.balanced (sweep.listing.lists _ sweep.now sweep.batch)
  constructor
  · exact hopened
  · exact hready.distinct
  · exact fun reservation hmem => (hready.overdue reservation hmem).pending
  · exact fun reservation hmem => (hready.overdue reservation hmem).expired
  · exact fun reservation hmem => .stays (hready.overdue reservation hmem).found fun _ => nofun

end ContestedSweep

/-! ## Reports -/

/-- What a sweep reports on its turns: how many there were, and of each kind how many. -/
structure SweepReport.Accounts (settings : ServiceSettings) (turns : List Turn)
    (report : SweepReport) : Prop where
  examined : report.examined = turns.length
  sum : report.examined = report.expired + report.alreadyResolved + report.failed
  expired : report.expired = turns.countP (Turn.Expires settings ·)
  alreadyResolved : report.alreadyResolved = turns.countP (Turn.ResolvedBefore settings ·)
  failed : report.failed = turns.countP (Turn.LacksRoom ·)

/-- At most one call of a run is applied to a reservation.  It was pending then, and if it is given
back, exactly what it held becomes available again; a call that asks for its resolution and is not
applied changes nothing. -/
structure ResolvesOnce (settings : ServiceSettings) (run : List MadeCall) : Prop where
  once : ∀ id, run.countP (MadeCall.isApplied settings id) ≤ 1
  returned : ∀ call ∈ run, ∀ id asked, call.asked? settings id = some asked →
    asked.isApplied = true → ∃ reservation,
      call.met.store.reservations.find? id = some reservation ∧ reservation.isPending = true ∧
        MemoryStore.Returns asked.resolution asked.now reservation call.met.store
          (call.left settings).store
  unchanged : ∀ call ∈ run, ∀ id asked, call.asked? settings id = some asked →
    asked.isApplied = false → (call.left settings).store = call.met.store

/-- A call that asks for a resolution changes nothing, or it is applied to what the reservation
holds. -/
theorem MadeCall.Sound.returns_or_keeps {settings : ServiceSettings} {made : MadeCall}
    (hsound : made.Sound) {id : Uuid} {asked : Asked}
    (hasked : made.asked? settings id = some asked) :
    (asked.isApplied = false ∧ (made.left settings).store = made.met.store) ∨
      asked.isApplied = true ∧ ∃ reservation,
        made.met.store.reservations.find? id = some reservation ∧ reservation.isPending = true ∧
          MemoryStore.Returns asked.resolution asked.now reservation made.met.store
            (made.left settings).store := by
  obtain ⟨houtcome, hstore⟩ := of_asked hasked
  have hbalanced := hsound.reachable.balanced
  rw [MemoryStore.answer] at houtcome hstore
  rw [Asked.isApplied, houtcome, hstore]
  rcases MemoryStore.resolve_cases hbalanced.toKeyed id asked.resolution asked.now
      (fun one hone => (hbalanced.consolidated id one hone).distinct) with
    ⟨error, heq⟩ | ⟨_, _, _, heq⟩ | ⟨reservation, after, hfound, hpending, _, heq, hsettles⟩
  · rw [heq]
    exact .inl ⟨rfl, rfl⟩
  · rw [heq]
    exact .inl ⟨rfl, rfl⟩
  · rw [heq]
    have hdistinct := (hbalanced.consolidated id reservation hfound).distinct
    exact .inr ⟨rfl, reservation, hfound, hpending, hsettles.returns hdistinct⟩

namespace MemoryService

theorem SingleRun.resolvesOnce {settings : ServiceSettings} {service : MemoryService}
    {steps : List Step} (hrun : service.SingleRun settings steps) :
    ResolvesOnce settings (service.made settings steps) := by
  have hsound (call : MadeCall) (hcall : call ∈ service.made settings steps) : call.Sound := by
    let kept (_ : MemoryService) : Prop := True
    have hkeeps (made : MadeCall) (_ : made.Sound) (hmet : kept made.met) :
        kept (made.left settings) := hmet
    exact (hrun.keeps hkeeps trivial call hcall).1
  refine ⟨hrun.countP_applied_le_one, ?_, ?_⟩
  · intro call hcall id asked hasked happlied
    refine ((hsound call hcall).returns_or_keeps hasked).elim (fun hkept => ?_) And.right
    rw [happlied] at hkept
    cases hkept.1
  · intro call hcall id asked hasked hrefused
    refine ((hsound call hcall).returns_or_keeps hasked).elim And.right fun hreturned => ?_
    rw [hrefused] at hreturned
    cases hreturned.1

/-- After any sequence of operations, and whatever others do between its calls, a sweep gives every
reservation that it has fetched its turn, in the order of the fetch, and reports what became of
each.  A turn that ends in an expiry makes exactly what the reservation held available again, and
any other turn changes nothing.  Over the whole run, each reservation is resolved at most once, and
what it held is given back at most once. -/
theorem sweep_accounts_for_turns (settings : ServiceSettings) (lifetime : Option Nat)
    (clock : Instant) (supply : Nat → Uuid) (steps : List Step) (sweep : ContestedSweep)
    (hfresh : (start lifetime clock supply).DrawsFresh settings
      (steps ++ sweep.steps settings ((start lifetime clock supply).after settings steps))) :
    let first := start lifetime clock supply
    let service := first.after settings steps
    let all := steps ++ sweep.steps settings service
    let turns := sweep.turns settings service
    (∃ report, sweep.run settings service = (.ok report, first.after settings all) ∧
      report.Accounts settings turns) ∧
    turns.map Turn.reservation = sweep.fetched settings service ∧
    (∀ turn ∈ turns, turn.Expires settings → MemoryStore.GivesBack turn.now
      turn.reservation.quantityOf turn.met.store (turn.expiring.left settings).store) ∧
    (∀ turn ∈ turns, ¬ turn.Expires settings →
      (turn.expiring.left settings).store = turn.met.store) ∧
    ResolvesOnce settings (first.made settings (first.calls settings all)) := by
  intro first service all turns
  have hreachable : service.store.Reachable :=
    reachable_after settings .empty ((drawsFresh_append settings).1 hfresh).1
  have hsteps := ((drawsFresh_append settings).1 hfresh).2
  rw [ContestedSweep.steps, drawsFresh_append] at hsteps
  obtain ⟨hothers, _, hturns⟩ := hsteps
  have hends : ∀ turn ∈ turns, turn.Ends settings := fun turn hturn =>
    ((ContestedSweep.awaits_fetched hreachable hothers).begins hturns turn hturn).ends
  have hreservations : turns.map Turn.reservation = sweep.fetched settings service :=
    ContestedSweep.turnsFrom_reservations _ _ _
  have hrun := sweep.run_eq settings service
  rw [← after_append, ← hreservations, List.length_map, Turn.count_outcomes hends] at hrun
  refine ⟨⟨_, hrun, ?_⟩, hreservations, ?_, ?_, ?_⟩
  · exact ⟨rfl, by simpa [SweepReport.empty] using Turn.length_eq_counts hends,
      Nat.zero_add _, Nat.zero_add _, Nat.zero_add _⟩
  · intro turn hturn hexpires
    cases hends turn hturn with
    | expired _ _ _ _ _ hgives => exact hgives
    | alreadyResolved _ hkept => exact absurd hexpires hkept
    | failed _ hkept => exact absurd hexpires hkept
  · intro turn hturn hkept
    cases hends turn hturn with
    | expired _ hexpires => exact absurd hexpires hkept
    | alreadyResolved _ _ _ _ _ hleft => exact hleft
    | failed _ _ _ _ _ hleft => exact hleft
  · exact (singleRun_calls settings lifetime clock supply hfresh).resolvesOnce

/-- Of three overdue orders one expires, one is released before its turn, and one stays pending
since the stock of pans has meanwhile been set to the largest quantity.  All nine cups are available
again, and the pan is still reserved. -/
theorem sweep_accounts_for_turns_of_three_orders :
    let moment : ClockReading := ⟨0, .epoch, .epoch⟩
    let late : Instant := ⟨1000, 0, by decide⟩
    let settings : ServiceSettings := ⟨⟨900000000000⟩⟩
    let steps : List Step := [⟨.create "cup" (some 9) none, fun _ => moment⟩,
      ⟨.create "pan" (some 1) none, fun _ => moment⟩,
      ⟨.reserve "first" [⟨"cup", 2⟩], fun _ => moment⟩,
      ⟨.reserve "second" [⟨"cup", 3⟩], fun _ => moment⟩,
      ⟨.reserve "third" [⟨"pan", 1⟩], fun _ => moment⟩]
    let others : Nat → List Step
      | 3 => [⟨.release (Uuid.ofNat 3), fun _ => moment⟩]
      | 4 => [⟨.adjust "pan" "SET" 2147483647, fun _ => moment⟩]
      | _ => []
    let sweep : ContestedSweep := ⟨late, 10, .byId, fun _ => ⟨0, late, late⟩, others⟩
    let first := start none .epoch Uuid.ofNat
    let service := first.after settings steps
    let all := steps ++ sweep.steps settings service
    first.DrawsFresh settings all ∧ ∃ report, report = ⟨3, 1, 1, 1⟩ ∧
      sweep.run settings service = (.ok report, first.after settings all) ∧
      report.Accounts settings (sweep.turns settings service) ∧
      (∀ turn ∈ sweep.turns settings service, turn.Expires settings → MemoryStore.GivesBack
        turn.now turn.reservation.quantityOf turn.met.store (turn.expiring.left settings).store) ∧
      ResolvesOnce settings (first.made settings (first.calls settings all)) ∧
      (first.after settings all).store.inventory.values.map
        (fun record => (record.available.value, record.reserved.value)) =
          [(9, 0), (2147483647, 1)] := by
  intro moment late settings steps others sweep first service all
  have hfresh : first.DrawsFresh settings all :=
    drawsFresh_of_findsFree settings (by decide +kernel)
  have hcounted : (sweep.run settings service).1.toOption = some ⟨3, 1, 1, 1⟩ := by
    decide +kernel
  have hunits : (first.after settings all).store.inventory.values.map
      (fun record => (record.available.value, record.reserved.value)) =
        [(9, 0), (2147483647, 1)] := by
    decide +kernel
  obtain ⟨⟨report, hrun, haccounts⟩, _, hgives, _, honce⟩ :=
    sweep_accounts_for_turns settings none .epoch Uuid.ofNat steps sweep hfresh
  rw [show (start none .epoch Uuid.ofNat).after settings steps = service from rfl] at hrun
  rw [hrun] at hcounted
  exact ⟨hfresh, report, Option.some.inj hcounted, hrun, haccounts, hgives, honce, hunits⟩

end MemoryService

end Stockroom
