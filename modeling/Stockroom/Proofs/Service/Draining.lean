import Stockroom.Proofs.Service.Contest
import Stockroom.Proofs.Store.Draining

/-!
# Draining what is overdue

As long as no record has more units than a quantity can have, nothing keeps an
overdue reservation from being given back.  So sweeps one after another take
the overdue reservations by their deadlines, as many each time as a batch has
room for, until none is left.
-/

namespace Stockroom

open MemoryStore (ExpiresAll)
open Database (overdueAmong mem_overdueAmong pairwise_overdueAmong)

namespace MemoryStore

variable {store : MemoryStore} {now : Instant} {reservation : Reservation}

/-- The pending reservations past their deadline. -/
def backlog (store : MemoryStore) (now : Instant) : List Reservation :=
  store.reservations.values.filter fun reservation =>
    reservation.isPending && reservation.isExpired now

theorem mem_backlog_iff (hkeyed : store.Keyed) :
    reservation ∈ store.backlog now ↔ store.Overdue now reservation := by
  rw [backlog, List.mem_filter, Bool.and_eq_true, SortedMap.mem_values_iff]
  constructor
  · rintro ⟨⟨id, hfound⟩, hpending, hexpired⟩
    exact ⟨hkeyed.reservations id reservation hfound ▸ hfound, hpending, hexpired⟩
  · rintro ⟨hfound, hpending, hexpired⟩
    exact ⟨⟨reservation.id, hfound⟩, hpending, hexpired⟩

theorem nodup_ids_backlog (hkeyed : store.Keyed) (now : Instant) :
    ((store.backlog now).map Reservation.id).Nodup :=
  (List.filter_sublist.map _).nodup hkeyed.distinct_ids

theorem perm_backlog {met : List Reservation} (hperm : met.Perm store.reservations.values)
    (now : Instant) : (overdueAmong now met).Perm (store.backlog now) :=
  (Sorting.perm_sort _ _).trans (hperm.filter _)

end MemoryStore

/-! ## One sweep -/

namespace Sweep

variable {now : Instant}

/-- Every reservation of a sweep expires where no record has too many units. -/
theorem ended_of_bounded (readings : Nat → ClockReading) {reservations : List Reservation}
    (report : SweepReport) (state : MemoryService × Nat)
    (hready : Ready now reservations state.1.store) (hbounded : state.1.store.Bounded) :
    let last := ended readings now report reservations state
    last.1 = { report with expired := report.expired + reservations.length } ∧
      ExpiresAll now state.1.store reservations last.2.1.store := by
  induction reservations generalizing report state with
  | nil => exact ⟨rfl, .nil state.1.store⟩
  | cons reservation rest ih =>
    have hoverdue := hready.overdue reservation List.mem_cons_self
    obtain ⟨after, hexpires⟩ := hready.balanced.expires_of_hasRoom hoverdue
      (hbounded.hasRoom hready.balanced hoverdue)
    have htimed := @MemoryService.timed_expire readings _ _ _ _ hexpires
    have hnext : Ready now rest (MemoryService.timed readings
      (Service.expire reservation.id now) state).2.1.store := hready.next
    rw [ended_cons, htimed]
    rw [htimed] at hnext
    obtain ⟨hreport, hall⟩ := ih (report.count (.ok ⟨.applied, reservation.resolved .expire now⟩))
      _ hnext (hbounded.of_expires hready.balanced hexpires)
    refine ⟨?_, .cons hexpires hall⟩
    rw [hreport, SweepReport.count, List.length_cons, Nat.add_assoc, Nat.add_comm 1]

end Sweep

/-- A sweep with nothing in between its calls. -/
structure SweepRound where
  listing : Listing
  readings : Nat → ClockReading

namespace SweepRound

variable {settings : ServiceSettings} {now : Instant} {batch : Nat} {round : SweepRound}

def sweep (now : Instant) (batch : Nat) (round : SweepRound) : ContestedSweep :=
  ⟨now, batch, round.listing, round.readings, fun _ => []⟩

theorem run_expireAll_alone (report : SweepReport) (reservations : List Reservation)
    (state : MemoryService × Nat) :
    Program.run ((round.sweep now batch).answer settings)
        (Sweep.expireAll now report reservations) state =
      Sweep.ended round.readings now report reservations state := by
  induction reservations generalizing report state with
  | nil => rfl
  | cons reservation rest ih =>
    have hexpire : Program.run ((round.sweep now batch).answer settings)
        (Service.expire reservation.id now).run state =
          MemoryService.timed round.readings (Service.expire reservation.id now) state :=
      (round.sweep now batch).run_expire settings reservation.id state
    refine (Program.run_bind _ _ _ state).trans ?_
    rw [hexpire, ih, Sweep.ended_cons]

/-- A sweep takes the first so many of what is overdue, and all of that expires. -/
theorem run_alone {service : MemoryService} (hbalanced : service.store.Balanced)
    (hbounded : service.store.Bounded) :
    ∃ met : List Reservation, met.Perm service.store.reservations.values ∧
      let taken := (overdueAmong now met).take batch
      let ended := (round.sweep now batch).run settings service
      ended.1 = .ok ⟨taken.length, taken.length, 0, 0⟩ ∧
        ExpiresAll now service.store taken ended.2.store := by
  obtain ⟨met, hperm, hfound⟩ := round.listing.lists service.store now batch
  refine ⟨met, hperm, ?_⟩
  intro taken ended
  have hready : Sweep.Ready now taken service.store :=
    Sweep.ready_of_lists hbalanced ⟨met, hperm, rfl⟩
  have hopened : Program.run ((round.sweep now batch).answer settings)
      (Service.overdue now batch).run (service, 0) =
        (.ok taken, service.atReading (round.readings 0), 1) := by
    rw [show taken = round.listing.found service.store now batch from hfound.symm]
    rfl
  have hended : ended = (.ok (Sweep.ended round.readings now
        { SweepReport.empty with examined := taken.length } taken
        (service.atReading (round.readings 0), 1)).1,
      (Sweep.ended round.readings now
        { SweepReport.empty with examined := taken.length } taken
        (service.atReading (round.readings 0), 1)).2.1) := by
    have hrun := Sweep.run_once ((round.sweep now batch).answer settings) now batch (service, 0)
    rw [hopened, Program.goOn_ok, run_expireAll_alone] at hrun
    exact Prod.ext (congrArg (fun ended => ended.1) hrun) (congrArg (fun ended => ended.2.1) hrun)
  obtain ⟨hreport, hexpires⟩ := Sweep.ended_of_bounded round.readings
    { SweepReport.empty with examined := taken.length }
    (service.atReading (round.readings 0), 1) hready hbounded
  rw [hended, hreport]
  refine ⟨?_, hexpires⟩
  simp [SweepReport.empty]

end SweepRound

/-! ## Sweeps one after another -/

/-- One of several sweeps: what it met, what it returned and what it left. -/
structure Pass where
  met : MemoryService
  outcome : Except CallFailure SweepReport
  left : MemoryService

namespace Pass

/-- How many reservations a sweep reports as expired. -/
def expired (pass : Pass) : Nat :=
  match pass.outcome with
  | .ok report => report.expired
  | .error _ => 0

/-- A sweep that reports no failure, and takes nothing that expires later than what it leaves. -/
structure Orderly (now : Instant) (pass : Pass) : Prop where
  reported : ∃ report, pass.outcome = .ok report ∧ report.failed = 0
  ordered : ∀ taken, pass.met.store.Overdue now taken → ¬ pass.left.store.Overdue now taken →
    ∀ kept, pass.left.store.Overdue now kept → taken.expiresAt ≤ kept.expiresAt

end Pass

namespace SweepRound

variable (settings : ServiceSettings) (now : Instant) (batch : Nat)

/-- Sweeps one after another, with nothing in between. -/
def passes (service : MemoryService) : List SweepRound → List Pass
  | [] => []
  | round :: rest =>
    let ended := (round.sweep now batch).run settings service
    ⟨service, ended.1, ended.2⟩ :: passes ended.2 rest

def after (service : MemoryService) : List SweepRound → MemoryService
  | [] => service
  | round :: rest => after ((round.sweep now batch).run settings service).2 rest

variable {settings now batch} {service : MemoryService}

/-- After a sweep the rest of what was overdue is overdue. -/
theorem backlog_of_taken {met : List Reservation} {left : MemoryStore}
    (hbalanced : service.store.Balanced) (hperm : met.Perm service.store.reservations.values)
    (hexpires : ExpiresAll now service.store ((overdueAmong now met).take batch) left) :
    ((overdueAmong now met).drop batch).Perm (left.backlog now) := by
  have hids := (((MemoryStore.perm_backlog hperm now).map Reservation.id).nodup_iff).2
    (MemoryStore.nodup_ids_backlog hbalanced.toKeyed now)
  have hlisted (reservation : Reservation) : reservation ∈ overdueAmong now met ↔
      service.store.Overdue now reservation :=
    (MemoryStore.perm_backlog hperm now).mem_iff.trans
      (MemoryStore.mem_backlog_iff hbalanced.toKeyed)
  have hleft := (hexpires.balanced hbalanced).toKeyed
  rw [List.perm_ext_iff_of_nodup (hids.of_map.sublist (List.drop_sublist _ _))
    (MemoryStore.nodup_ids_backlog hleft now).of_map]
  intro reservation
  rw [MemoryStore.mem_backlog_iff hleft, hexpires.overdue_iff
    (((List.take_sublist _ _).map _).nodup hids)
    fun taken htaken => (hlisted taken).1 (List.mem_of_mem_take htaken), ← hlisted]
  have hsplit := List.take_append_drop batch (overdueAmong now met)
  constructor
  · intro hmem
    refine ⟨List.mem_of_mem_drop hmem, fun htaken => ?_⟩
    have hnodup := hids.of_map
    rw [← hsplit] at hnodup
    exact (List.nodup_append.1 hnodup).2.2 reservation htaken reservation hmem rfl
  · rintro ⟨hmem, hother⟩
    rw [← hsplit] at hmem
    exact (List.mem_append.1 hmem).resolve_left hother

variable (settings now batch) in
/-- A sweep is orderly, and what it takes and what it leaves together were overdue. -/
theorem orderly_sweep (round : SweepRound) (hbalanced : service.store.Balanced)
    (hbounded : service.store.Bounded) :
    let ended := (round.sweep now batch).run settings service
    let pass : Pass := ⟨service, ended.1, ended.2⟩
    pass.Orderly now ∧ ∃ taken : List Reservation, pass.expired = taken.length ∧
      taken.length = min batch (service.store.backlog now).length ∧
      ExpiresAll now service.store taken ended.2.store ∧
      (taken ++ ended.2.store.backlog now).Perm (service.store.backlog now) := by
  intro ended pass
  obtain ⟨met, hperm, hreport, hexpires⟩ := @run_alone settings now batch round _ hbalanced hbounded
  have hbacklog := MemoryStore.perm_backlog hperm now
  have hrest := backlog_of_taken hbalanced hperm hexpires
  have hsplit := List.take_append_drop batch (overdueAmong now met)
  refine ⟨⟨⟨_, hreport, rfl⟩, ?_⟩, (overdueAmong now met).take batch, ?_, ?_, hexpires, ?_⟩
  · intro taken hmet hleft kept hkept
    have hlater : kept ∈ (overdueAmong now met).drop batch := by
      rw [hrest.mem_iff, MemoryStore.mem_backlog_iff (hexpires.balanced hbalanced).toKeyed]
      exact hkept
    have hearlier : taken ∈ (overdueAmong now met).take batch := by
      rw [← MemoryStore.mem_backlog_iff hbalanced.toKeyed, ← hbacklog.mem_iff, ← hsplit,
        List.mem_append, hrest.mem_iff,
        MemoryStore.mem_backlog_iff (hexpires.balanced hbalanced).toKeyed] at hmet
      exact hmet.resolve_right hleft
    have hsorted := pairwise_overdueAmong now met
    rw [← hsplit, List.pairwise_append] at hsorted
    exact hsorted.2.2 taken hearlier kept hlater
  · simp only [Pass.expired, pass, ended, hreport]
  · rw [List.length_take, hbacklog.length_eq]
  · refine (hrest.symm.append_left _).trans ?_
    rw [hsplit]
    exact hbacklog

/-- Enough sweeps take all that is overdue. -/
theorem drains (rounds : List SweepRound) (hbalanced : service.store.Balanced)
    (hbounded : service.store.Bounded)
    (henough : (service.store.backlog now).length ≤ rounds.length * batch) :
    (∀ pass ∈ passes settings now batch service rounds, pass.Orderly now) ∧
      ∃ taken : List Reservation, taken.Perm (service.store.backlog now) ∧
        ((passes settings now batch service rounds).map Pass.expired).sum = taken.length ∧
        ExpiresAll now service.store taken (after settings now batch service rounds).store := by
  induction rounds generalizing service with
  | nil =>
    rw [List.length_nil, Nat.zero_mul, Nat.le_zero, List.length_eq_zero_iff] at henough
    exact ⟨fun _ => nofun, [], by rw [henough], rfl, .nil service.store⟩
  | cons round rest ih =>
    obtain ⟨horderly, taken, hexpired, hlength, hexpires, hperm⟩ :=
      orderly_sweep settings now batch round hbalanced hbounded
    -- The first sweep takes a full batch or all there is, so the other rounds suffice for the rest.
    have hrest := hperm.length_eq
    rw [List.length_append] at hrest
    rw [List.length_cons, Nat.succ_mul] at henough
    obtain ⟨hlater, others, hothers, hsum, hall⟩ := ih (hexpires.balanced hbalanced)
      (hexpires.bounded hbalanced hbounded) (by omega)
    refine ⟨List.forall_mem_cons.2 ⟨horderly, hlater⟩, taken ++ others,
      (hothers.append_left taken).trans hperm, ?_, hexpires.append hall⟩
    rw [List.length_append, ← hexpired, ← hsum]
    rfl

end SweepRound

theorem MemoryStore.bounded_iff {store : MemoryStore} : store.Bounded ↔
    ∀ record ∈ store.inventory.values,
      record.available.value + record.reserved.value ≤ Quantity.maximum := by
  constructor
  · intro hbounded record hmem
    obtain ⟨product, hfound⟩ := SortedMap.mem_values_iff.1 hmem
    exact hbounded product record hfound
  · intro hbounded product record hfound
    exact hbounded record (SortedMap.mem_values_iff.2 ⟨product, hfound⟩)

instance (store : MemoryStore) : Decidable store.Bounded :=
  decidable_of_iff _ MemoryStore.bounded_iff.symm

/-- All that was overdue is expired and its units are given back, and nothing else has changed. -/
structure Drained (now : Instant) (before after : MemoryStore) : Prop where
  none_overdue : ∀ id reservation, after.reservations.find? id = some reservation →
    reservation.isPending = true → ¬ reservation.expiresAt < now
  expired : ∀ reservation ∈ before.backlog now,
    after.reservations.find? reservation.id = some (reservation.resolved .expire now)
  kept : ∀ id, id ∉ (before.backlog now).map Reservation.id →
    after.reservations.find? id = before.reservations.find? id
  stock : MemoryStore.GivesBack now
    (fun product => ((before.backlog now).map (·.quantityOf product)).sum) before after
  processed : after.processed = before.processed

theorem MemoryStore.ExpiresAll.drained {now : Instant} {before after : MemoryStore}
    {taken : List Reservation} (hbalanced : before.Balanced)
    (hperm : taken.Perm (before.backlog now))
    (hexpires : ExpiresAll now before taken after) : Drained now before after := by
  have hids : (taken.map Reservation.id).Nodup :=
    (hperm.map Reservation.id).nodup_iff.2 (nodup_ids_backlog hbalanced.toKeyed now)
  have hoverdue : ∀ reservation ∈ taken, before.Overdue now reservation := fun reservation hmem =>
    (mem_backlog_iff hbalanced.toKeyed).1 (hperm.mem_iff.1 hmem)
  constructor
  · intro id reservation hfound hpending hdue
    have hid := (hexpires.balanced hbalanced).reservations id reservation hfound
    have hstill : after.Overdue now reservation :=
      ⟨hid ▸ hfound, hpending, decide_eq_true hdue⟩
    obtain ⟨hearlier, hother⟩ := (hexpires.overdue_iff hids hoverdue).1 hstill
    exact hother (hperm.mem_iff.2 ((mem_backlog_iff hbalanced.toKeyed).2 hearlier))
  · exact fun reservation hmem => hexpires.find?_expired hids (hperm.mem_iff.2 hmem)
  · exact fun id habsent => hexpires.find?_other fun hmem =>
      habsent ((hperm.map Reservation.id).mem_iff.1 hmem)
  · have hgives := hexpires.givesBack hbalanced hids fun reservation hmem =>
      (hoverdue reservation hmem).found
    have hunits (product : ProductId) : (taken.map (·.quantityOf product)).sum =
        ((before.backlog now).map (·.quantityOf product)).sum := (hperm.map _).sum_eq
    simpa only [hunits] using hgives
  · exact hexpires.processed

namespace MemoryService

/-- After any sequence of operations that leaves no record with too many units, as many sweeps as
batches are needed for what is overdue expire all of it, without a failure and by the order of the
deadlines. -/
theorem sweeps_drain_backlog (settings : ServiceSettings) (lifetime : Option Nat)
    (clock : Instant) (supply : Nat → Uuid) (steps : List Step)
    (hfresh : (start lifetime clock supply).DrawsFresh settings steps) (now : Instant)
    (batch : Nat) (hbatch : 1 ≤ batch) (rounds : List SweepRound) :
    let service := (start lifetime clock supply).after settings steps
    service.store.Bounded →
    rounds.length = ((service.store.backlog now).length + batch - 1) / batch →
    let passes := SweepRound.passes settings now batch service rounds
    (∀ pass ∈ passes, pass.Orderly now) ∧
      (passes.map Pass.expired).sum = (service.store.backlog now).length ∧
      Drained now service.store (SweepRound.after settings now batch service rounds).store := by
  intro service hbounded hlength passes
  have hbalanced : service.store.Balanced :=
    (reachable_after settings MemoryStore.Reachable.empty hfresh).balanced
  have henough : (service.store.backlog now).length ≤ rounds.length * batch := by
    have hdiv := Nat.div_add_mod ((service.store.backlog now).length + batch - 1) batch
    have hmod := Nat.mod_lt ((service.store.backlog now).length + batch - 1) hbatch
    rw [← hlength, Nat.mul_comm] at hdiv
    omega
  obtain ⟨horderly, taken, hperm, hsum, hexpires⟩ :=
    SweepRound.drains rounds hbalanced hbounded henough
  exact ⟨horderly, hsum.trans hperm.length_eq, hexpires.drained hbalanced hperm⟩

/-- Three overdue orders of the same cups are swept in two batches. -/
theorem sweeps_drain_backlog_of_three_orders :
    let moment : ClockReading := ⟨0, .epoch, .epoch⟩
    let late : Instant := ⟨1000, 0, by decide⟩
    let settings : ServiceSettings := ⟨⟨900000000000⟩⟩
    let steps : List Step := [⟨.create "cup" (some 9) none, fun _ => moment⟩,
      ⟨.create "pan" (some 1) none, fun _ => moment⟩,
      ⟨.reserve "first" [⟨"cup", 2⟩], fun _ => moment⟩,
      ⟨.reserve "second" [⟨"cup", 3⟩, ⟨"pan", 1⟩], fun _ => moment⟩,
      ⟨.reserve "third" [⟨"cup", 1⟩], fun _ => moment⟩]
    let round : SweepRound := ⟨.byId, fun _ => ⟨0, late, late⟩⟩
    let service := (start none .epoch Uuid.ofNat).after settings steps
    let passes := SweepRound.passes settings late 2 service [round, round]
    (start none .epoch Uuid.ofNat).DrawsFresh settings steps ∧ service.store.Bounded ∧
      (service.store.backlog late).length = 3 ∧ passes.map Pass.expired = [2, 1] ∧
      (∀ pass ∈ passes, pass.Orderly late) ∧
      Drained late service.store
        (SweepRound.after settings late 2 service [round, round]).store := by
  intro moment late settings steps round service passes
  have hfresh : (start none .epoch Uuid.ofNat).DrawsFresh settings steps :=
    drawsFresh_of_findsFree settings (by decide +kernel)
  have hbounded : service.store.Bounded := by decide +kernel
  have hcount : (service.store.backlog late).length = 3 := by decide +kernel
  have hexpired : passes.map Pass.expired = [2, 1] := by decide +kernel
  have hdrained := sweeps_drain_backlog settings none .epoch Uuid.ofNat steps hfresh late 2
    (by decide) [round, round]
  rw [show (start none .epoch Uuid.ofNat).after settings steps = service from rfl] at hdrained
  obtain ⟨horderly, _, hlast⟩ := hdrained hbounded (by rw [hcount]; rfl)
  exact ⟨hfresh, hbounded, hcount, hexpired, horderly, hlast⟩

end MemoryService

end Stockroom
