import Stockroom.Proofs.Cache
import Stockroom.Proofs.Service.Calls
import Stockroom.Proofs.Store.Expiring
import Stockroom.Proofs.Ties

/-!
# Sweeps and the order of ties

A sweep that gives back every reservation that has its deadline in common with
another one does the same in whatever order these reservations come.
-/

namespace Stockroom

namespace Surroundings

/-- The surroundings after the cache has forgotten some products. -/
def forget (around : Surroundings) (products : List ProductId) : Surroundings :=
  { around with cache := around.cache.invalidateMany products }

theorem forget_comm (around : Surroundings) (one other : List ProductId) :
    (around.forget one).forget other = (around.forget other).forget one := by
  have hcache : (around.cache.invalidateMany one).invalidateMany other =
      (around.cache.invalidateMany other).invalidateMany one := by
    have hcommutes : RightCommutative StockCache.invalidate := ⟨StockCache.invalidate_comm⟩
    simp only [StockCache.invalidateMany]
    rw [← List.foldl_append, ← List.foldl_append]
    exact List.perm_append_comm.foldl_eq _
  simp only [forget, hcache]

end Surroundings

namespace MemoryService

open Program (goOn_ok)

variable {readings : Nat → ClockReading} {now : Instant}

theorem forgotten_timed (lines : List ReservationLine) (store : MemoryStore)
    (around : Surroundings) (count : Nat) :
    Service.forgotten (answerTimed readings) lines
        (⟨store, around.atReading (readings count)⟩, count + 1) =
      (⟨store, (around.forget (ReservationLine.products lines)).atReading
        (readings (count + lines.length))⟩, count + lines.length + 1) := by
  induction lines generalizing around count with
  | nil => rfl
  | cons line rest ih =>
    refine (ih (around.forget [line.product]) (count + 1)).trans ?_
    rw [List.length_cons, Nat.add_assoc count 1, Nat.add_comm 1]
    rfl

theorem timed_expire {state : MemoryService × Nat} {reservation : Reservation}
    {after : MemoryStore} (hexpires : state.1.store.Expires now reservation after) :
    timed readings (Service.expire reservation.id now) state =
      (.ok ⟨.applied, reservation.resolved .expire now⟩,
        ⟨after, (state.1.around.forget reservation.products).atReading
          (readings (state.2 + reservation.lines.length))⟩,
        state.2 + reservation.lines.length + 1) := by
  rw [Service.expire, Service.resolve, timed_bind, timed_store, hexpires.answer, mapError_ok,
    goOn_ok]
  refine (Service.run_forgetLines_return (answerTimed readings) reservation.lines _ _).trans ?_
  rw [forgotten_timed]
  rfl

theorem timed_expire_refused {state : MemoryService × Nat} {id : Uuid} {error : StockError}
    (hrefused : MemoryStore.answer (.resolve id .expire now) state.1.store =
      (.error error, state.1.store)) :
    timed readings (Service.expire id now) state =
      (.error (.stock error), ⟨state.1.store, state.1.around.atReading (readings state.2)⟩,
        state.2 + 1) := by
  rw [Service.expire, Service.resolve, timed_bind, timed_store, hrefused]
  rfl

/-- Expiring two reservations in either order leaves the same service behind. -/
theorem timed_expire_comm {state : MemoryService × Nat} {first second : Reservation}
    {middle between after : MemoryStore} (hfirst : state.1.store.Expires now first middle)
    (hsecond : middle.Expires now second after) (hearly : state.1.store.Expires now second between)
    (hlate : between.Expires now first after) :
    (timed readings (Service.expire second.id now)
        (timed readings (Service.expire first.id now) state).2).2 =
      (timed readings (Service.expire first.id now)
        (timed readings (Service.expire second.id now) state).2).2 := by
  rw [timed_expire hfirst, timed_expire hearly, timed_expire hsecond, timed_expire hlate]
  have hcount : state.2 + first.lines.length + 1 + second.lines.length =
      state.2 + second.lines.length + 1 + first.lines.length := by omega
  have haround : ((state.1.around.forget first.products).forget second.products) =
      (state.1.around.forget second.products).forget first.products :=
    Surroundings.forget_comm _ _ _
  refine Prod.ext ?_ (congrArg (· + 1) hcount)
  change MemoryService.mk after (((state.1.around.forget first.products).forget
      second.products).atReading _) = MemoryService.mk after (((state.1.around.forget
      second.products).forget first.products).atReading _)
  rw [haround, hcount]

end MemoryService

namespace Sweep

open MemoryService

variable {readings : Nat → ClockReading} {now : Instant}

/-- The report of a sweep and the service after it, or after a part of it. -/
def ended (readings : Nat → ClockReading) (now : Instant) (report : SweepReport)
    (reservations : List Reservation) (state : MemoryService × Nat) :
    SweepReport × MemoryService × Nat :=
  (expireAll now report reservations).run (answerTimed readings) state

theorem ended_cons (report : SweepReport) (reservation : Reservation) (rest : List Reservation)
    (state : MemoryService × Nat) :
    ended readings now report (reservation :: rest) state =
      ended readings now
        (report.count (timed readings (Service.expire reservation.id now) state).1) rest
        (timed readings (Service.expire reservation.id now) state).2 :=
  run_expireAll_cons readings now report reservation rest state

/-- A sweep can begin here: the reservations are in the store, each once, and overdue. -/
structure Ready (now : Instant) (reservations : List Reservation) (store : MemoryStore) :
    Prop where
  balanced : store.Balanced
  overdue : ∀ reservation ∈ reservations, store.Overdue now reservation
  distinct : (reservations.map Reservation.id).Nodup

variable {reservation : Reservation} {rest : List Reservation} {state : MemoryService × Nat}

theorem Ready.perm {left right : List Reservation} {store : MemoryStore}
    (hready : Ready now left store) (hperm : left.Perm right) : Ready now right store where
  balanced := hready.balanced
  overdue reservation hmem := hready.overdue reservation (hperm.mem_iff.2 hmem)
  distinct := (hperm.map _).nodup_iff.1 hready.distinct

/-- What is overdue and not expired now is still overdue afterwards. -/
theorem overdue_next (hbalanced : state.1.store.Balanced)
    (hoverdue : state.1.store.Overdue now reservation) {other : Reservation}
    (hother : state.1.store.Overdue now other) (hne : reservation.id ≠ other.id) :
    (timed readings (Service.expire reservation.id now) state).2.1.store.Overdue now other := by
  rcases hbalanced.expires_or_stays hoverdue with ⟨after, hexpires⟩ | ⟨error, hrefused⟩
  · rw [timed_expire hexpires]
    exact hother.of_expires hexpires hne
  · rw [timed_expire_refused hrefused]
    exact hother

theorem Ready.next (hready : Ready now (reservation :: rest) state.1.store) :
    Ready now rest (timed readings (Service.expire reservation.id now) state).2.1.store := by
  obtain ⟨hid, hdistinct⟩ := List.nodup_cons.1 hready.distinct
  obtain ⟨hoverdue, hrest⟩ := List.forall_mem_cons.1 hready.overdue
  refine ⟨?_, fun other hother => ?_, hdistinct⟩
  · rcases hready.balanced.expires_or_stays hoverdue with ⟨after, hexpires⟩ | ⟨error, hrefused⟩
    · rw [timed_expire hexpires]
      exact hready.balanced.of_expires hexpires
    · rw [timed_expire_refused hrefused]
      exact hready.balanced
  · exact overdue_next hready.balanced hoverdue (hrest other hother)
      fun hsame => hid (hsame ▸ List.mem_map_of_mem hother)

variable (readings) in
/-- A sweep leaves alone what it did not fetch. -/
theorem overdue_ended {reservations : List Reservation} (report : SweepReport)
    (hready : Ready now reservations state.1.store) {other : Reservation}
    (hother : state.1.store.Overdue now other)
    (habsent : other.id ∉ reservations.map Reservation.id) :
    (ended readings now report reservations state).2.1.store.Overdue now other := by
  induction reservations generalizing report state with
  | nil => exact hother
  | cons reservation rest ih =>
    rw [List.map_cons, List.mem_cons, not_or] at habsent
    obtain ⟨hne, hrest⟩ := habsent
    rw [ended_cons]
    exact ih _ hready.next (overdue_next hready.balanced (hready.overdue _ List.mem_cons_self)
      hother (Ne.symm hne)) hrest

/-- Every one of some reservations that has its deadline in common with another is no longer
pending. -/
def SettlesTies (reservations : List Reservation) (store : MemoryStore) : Prop :=
  ∀ one ∈ reservations, ∀ other ∈ reservations, one ≠ other → one.expiresAt = other.expiresAt →
    ∀ left ∈ store.reservations.find? one.id, left.isPending = false

instance (reservations : List Reservation) (store : MemoryStore) :
    Decidable (SettlesTies reservations store) :=
  inferInstanceAs (Decidable (∀ one ∈ reservations, ∀ other ∈ reservations, one ≠ other →
    one.expiresAt = other.expiresAt →
      ∀ left ∈ store.reservations.find? one.id, left.isPending = false))

theorem SettlesTies.sublist {some all : List Reservation} {store : MemoryStore}
    (hsettles : SettlesTies all store) (hsome : some ⊆ all) : SettlesTies some store :=
  fun one hone other hother => hsettles one (hsome hone) other (hsome hother)

/-- A reservation that is no longer pending after the sweep was given back in its turn. -/
theorem Ready.expires (hready : Ready now (reservation :: rest) state.1.store)
    (report : SweepReport)
    (hsettled : ∀ left ∈
      (ended readings now report (reservation :: rest) state).2.1.store.reservations.find?
        reservation.id, left.isPending = false) :
    ∃ after, state.1.store.Expires now reservation after := by
  have hoverdue := hready.overdue reservation List.mem_cons_self
  refine (hready.balanced.expires_or_stays hoverdue).resolve_right ?_
  rintro ⟨error, hrefused⟩
  rw [ended_cons] at hsettled
  have hstays : (timed readings (Service.expire reservation.id now) state).2.1.store.Overdue now
      reservation := by
    rw [timed_expire_refused hrefused]
    exact hoverdue
  have hpending := hsettled reservation
    (overdue_ended readings _ hready.next hstays (List.nodup_cons.1 hready.distinct).1).found
  rw [hoverdue.pending] at hpending
  cases hpending

/-- Ties may be swept in any order. -/
theorem ended_eq_of_tiesSwapped {left right : List Reservation}
    (hswapped : TiesSwapped Reservation.expiresAt left right) (report : SweepReport)
    (hready : Ready now left state.1.store)
    (hsettles : SettlesTies left (ended readings now report left state).2.1.store) :
    ended readings now report left state = ended readings now report right state := by
  induction hswapped generalizing report state with
  | nil => rfl
  | cons reservation _ ih =>
    rw [ended_cons] at hsettles
    rw [ended_cons, ended_cons]
    exact ih _ hready.next (hsettles.sublist (List.subset_cons_self _ _))
  | swap first second rest htie =>
    have hne : first.id ≠ second.id := by
      have hdistinct := (List.nodup_cons.1 hready.distinct).1
      exact fun hsame => hdistinct (hsame ▸ List.mem_cons_self)
    have hdistinct : first ≠ second := fun hsame => hne (congrArg _ hsame)
    have hfirst : first ∈ first :: second :: rest := List.mem_cons_self
    have hsecond : second ∈ first :: second :: rest := List.mem_cons_of_mem _ List.mem_cons_self
    obtain ⟨middle, hone⟩ := hready.expires report
      (hsettles first hfirst second hsecond hdistinct htie)
    have hother := hsettles second hsecond first hfirst hdistinct.symm htie.symm
    rw [ended_cons] at hother
    obtain ⟨after, hother⟩ := hready.next.expires _ hother
    rw [timed_expire hone] at hother
    obtain ⟨between, hearly, hlate⟩ := hready.balanced.expires_comm (hready.overdue _ hfirst)
      (hready.overdue _ hsecond) hne hone hother
    have hreports : (report.count (timed readings (Service.expire first.id now) state).1).count
          (timed readings (Service.expire second.id now)
            (timed readings (Service.expire first.id now) state).2).1 =
        (report.count (timed readings (Service.expire second.id now) state).1).count
          (timed readings (Service.expire first.id now)
            (timed readings (Service.expire second.id now) state).2).1 := by
      rw [timed_expire hone, timed_expire hearly, timed_expire hother, timed_expire hlate]
      rfl
    rw [ended_cons, ended_cons, ended_cons, ended_cons, hreports,
      timed_expire_comm hone hother hearly hlate]
  | trans hleft _ ihleft ihright =>
    have hfirst := ihleft report hready hsettles
    rw [hfirst] at hsettles ⊢
    exact ihright report (hready.perm hleft.same.perm)
      (hsettles.sublist hleft.same.perm.symm.subset)

end Sweep

end Stockroom
