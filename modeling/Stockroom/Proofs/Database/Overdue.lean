import Stockroom.Proofs.Database.Mirroring
import Stockroom.Proofs.Database.Listings
import Stockroom.Proofs.Ties

/-!
# Overdue reservations

The store in memory keeps its reservations in a map without an order, and a
table has no order of its rows either.  A store in memory and tables that
mirror it list the same reservations as overdue, up to the order of equal
deadlines.
-/

namespace Stockroom

namespace Database

theorem mem_overdueAmong {asOf : Instant} {reservations : List Reservation}
    {reservation : Reservation} : reservation ∈ overdueAmong asOf reservations ↔
      reservation ∈ reservations ∧ reservation.isPending = true ∧
        reservation.isExpired asOf = true := by
  rw [overdueAmong, Sorting.mem_sort, List.mem_filter, Bool.and_eq_true]

theorem pairwise_overdueAmong (asOf : Instant) (reservations : List Reservation) :
    (overdueAmong asOf reservations).Pairwise
      fun earlier later => earlier.expiresAt ≤ later.expiresAt := by
  have hiff (left right : Reservation) : (!decide (right.expiresAt < left.expiresAt)) = true ↔
      left.expiresAt ≤ right.expiresAt := by
    rw [Bool.not_eq_true', decide_eq_false_iff_not, Std.not_lt]
  have hsorted := @Sorting.pairwise_sort _
    (fun left right : Reservation => !decide (right.expiresAt < left.expiresAt))
    (fun one two three hle hnext => by
      rw [hiff] at hle hnext ⊢
      exact Std.le_trans hle hnext)
    (fun one other => by
      rw [Bool.or_eq_true, hiff, hiff]
      exact Std.le_total)
    (reservations.filter fun reservation => reservation.isPending && reservation.isExpired asOf)
  exact hsorted.imp fun {earlier later} hbefore => (hiff earlier later).1 hbefore

end Database

open Database

/-- No reservation that is fetched as overdue has its deadline in common with one that the limit
leaves out. -/
def MemoryStore.CutsNoTie (store : MemoryStore) (asOf : Instant) (limit : Nat) : Prop :=
  Stockroom.CutsNoTie Reservation.expiresAt limit (overdueAmong asOf store.reservations.values)

instance (store : MemoryStore) (asOf : Instant) (limit : Nat) :
    Decidable (store.CutsNoTie asOf limit) :=
  inferInstanceAs (Decidable (Stockroom.CutsNoTie Reservation.expiresAt limit _))

/-- What a look-up of overdue reservations may yield: all reservations are met in some order, and
the overdue ones among them are sorted by their deadlines alone. -/
def MemoryStore.Lists (store : MemoryStore) (asOf : Instant) (limit : Nat)
    (found : List Reservation) : Prop :=
  ∃ met : List Reservation, met.Perm store.reservations.values ∧
    found = (Database.overdueAmong asOf met).take limit

/-- A way to look up what is overdue. -/
structure Listing where
  found : MemoryStore → Instant → Nat → List Reservation
  lists : ∀ (store : MemoryStore) asOf limit, store.Lists asOf limit (found store asOf limit)

/-- The look-up that meets reservations in the order of their ids. -/
def Listing.byId : Listing :=
  ⟨MemoryStore.overdue, fun _ _ _ => ⟨_, .refl _, rfl⟩⟩

theorem MemoryStore.Lists.mem {store : MemoryStore} {asOf : Instant} {limit : Nat}
    {found : List Reservation} (hlists : store.Lists asOf limit found) {reservation : Reservation}
    (hmem : reservation ∈ found) : reservation ∈ store.reservations.values ∧
      reservation.isPending = true ∧ reservation.isExpired asOf = true := by
  obtain ⟨met, hmet, rfl⟩ := hlists
  rw [← hmet.mem_iff]
  exact mem_overdueAmong.1 (List.mem_of_mem_take hmem)

theorem Database.Contents.Mirrors.overdue {contents : Contents} {store : MemoryStore}
    {ids : Set Uuid} (hmirrors : contents.Mirrors store ids) {asOf : Instant} {limit : Nat}
    (hcuts : store.CutsNoTie asOf limit) {found : List Reservation}
    (hlists : store.Lists asOf limit found) :
    TiesSwapped Reservation.expiresAt found
      ((overdueAmong asOf contents.reservations).take limit) := by
  obtain ⟨met, hmet, rfl⟩ := hlists
  have hswapped {one other : List Reservation} (hperm : one.Perm other) :
      TiesSwapped Reservation.expiresAt (overdueAmong asOf one) (overdueAmong asOf other) :=
    .of_sorted ((Sorting.perm_sort _ _).trans ((hperm.filter _).trans
      (Sorting.perm_sort _ _).symm)) (pairwise_overdueAmong asOf _) (pairwise_overdueAmong asOf _)
  exact (hswapped (hmet.trans hmirrors.perm_reservations.symm)).take
    ((hswapped hmet.symm).same.cutsNoTie hcuts)

end Stockroom
