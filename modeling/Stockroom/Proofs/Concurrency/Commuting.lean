import Stockroom.Proofs.Concurrency.Process
import Stockroom.Proofs.Store.Footprint

/-!
# Independent calls commute

Calls that go to different rows can change places: each is answered the same
whether it comes first or second, and together they leave the same store.
This is why it is enough to lock rows.
-/

namespace Stockroom

open MemoryStore (answer)

namespace Footprint

/-- Two footprints have no row in common. -/
structure IsDisjoint (rows others : Footprint) : Prop where
  products : List.Disjoint rows.products others.products
  reservations : ∀ id, rows.reservation = some id → others.reservation ≠ some id

variable {rows others : Footprint} {store after : MemoryStore}

theorem IsDisjoint.symm (hdisjoint : rows.IsDisjoint others) : others.IsDisjoint rows where
  products := hdisjoint.products.symm
  reservations id hother hone := hdisjoint.reservations id hone hother

/-- Changes in other rows are not seen. -/
theorem IsDisjoint.agrees (hdisjoint : rows.IsDisjoint others)
    (hkeeps : others.Keeps store after) : rows.Agrees store after where
  records product hmem := hkeeps.records product (hdisjoint.products hmem)
  reservations id hid := hkeeps.reservations id (hdisjoint.reservations id hid)

end Footprint

namespace RowCall

variable {store : MemoryStore} {rows : Footprint}

/-- The answer to a call, and the store after it. -/
def perform (call : RowCall) (store : MemoryStore) : call.Answer × MemoryStore :=
  answer call.toStoreCall store

/-- The rows that a call concerns: those of the products that it names, or that the reservation
names which it resolves, and that of the reservation. -/
def footprint (store : MemoryStore) : RowCall → Footprint
  | create record => ⟨[record.product], none⟩
  | find product | adjust product _ _ | setThreshold product _ _ | delete product =>
    ⟨[product], none⟩
  | reserve reservation => ⟨reservation.products, some reservation.id⟩
  | resolve id _ _ =>
    ⟨((store.reservations.find? id).map Reservation.products).getD [], some id⟩
  | findReservation id => ⟨[], some id⟩

/-- Other stores that hold the same in some rows answer a call as a store does, and hold the same
after it; all other rows stay as they are. -/
structure DependsOn (call : RowCall) (rows : Footprint) (store : MemoryStore) : Prop where
  agrees : ∀ twin, rows.Agrees store twin → (call.perform twin).1 = (call.perform store).1 ∧
    rows.Agrees (call.perform store).2 (call.perform twin).2
  keeps : rows.Keeps store (call.perform store).2

theorem dependsOn_create (record : StockRecord) (store : MemoryStore) :
    (create record).DependsOn ⟨[record.product], none⟩ store := by
  constructor
  · intro twin hagrees
    have hsame := hagrees.records record.product (List.mem_singleton_self _)
    have hcontains : twin.inventory.contains record.product =
        store.inventory.contains record.product := by
      rw [SortedMap.contains, hsame, SortedMap.contains]
    simp only [perform, toStoreCall, answer, MemoryStore.create, hcontains]
    split
    · exact ⟨rfl, hagrees⟩
    · refine ⟨rfl, fun product hmem => ?_, fun _ hid => by cases hid⟩
      simp only [SortedMap.find?_insert, hagrees.records product hmem]
  · simp only [perform, toStoreCall, answer, MemoryStore.create]
    split
    · exact .refl _ store
    · refine ⟨fun product hout => ?_, fun _ _ => rfl, rfl⟩
      have hne : record.product ≠ product := fun heq => hout (List.mem_singleton.2 heq.symm)
      rw [SortedMap.find?_insert, if_neg hne]

/-- A call that runs a unit of work depends on the rows to which this keeps. -/
theorem dependsOn_of_within {call : RowCall} {work : UnitOfWork call.toStoreCall.Value}
    {found : Option Reservation} (hruns : ∀ store, call.perform store = store.perform work)
    (hwithin : work.StaysWithin rows found) (hmet : rows.Met found true store) :
    call.DependsOn rows store := by
  constructor
  · intro twin hagrees
    rw [hruns, hruns]
    exact Footprint.agrees_run hwithin.run hmet hagrees
  · rw [hruns]
    exact Footprint.keeps_run hwithin.run hmet

/-- A call depends on the rows that it concerns. -/
theorem dependsOn_footprint (hkeyed : store.Keyed) (call : RowCall) :
    call.DependsOn (call.footprint store) store := by
  have hmet (products : List ProductId) : Footprint.Met ⟨products, none⟩ none true store :=
    ⟨hkeyed, fun _ _ => nofun⟩
  have hmetAt (products : List ProductId) (id : Uuid) :
      Footprint.Met ⟨products, some id⟩ (store.reservations.find? id) true store := by
    refine ⟨hkeyed, fun _ other hother => ?_⟩
    cases hother
    rfl
  have hmem (product : ProductId) : product ∈ [product] := List.mem_singleton_self product
  cases call with
  | create record => exact dependsOn_create record store
  | find product =>
    refine ⟨fun twin hagrees => ⟨?_, hagrees⟩, .refl _ store⟩
    exact congrArg Except.ok (hagrees.records product (hmem product))
  | findReservation id =>
    refine ⟨fun twin hagrees => ⟨?_, hagrees⟩, .refl _ store⟩
    exact congrArg Except.ok (hagrees.reservations id rfl)
  | adjust product adjustment now =>
    exact dependsOn_of_within (fun _ => rfl) (UnitOfWork.change_within (hmem product)
      fun _ _ hedit => (StockRecord.keeps_of_adjust hedit).1) (hmet _)
  | setThreshold product threshold now =>
    refine dependsOn_of_within (fun _ => rfl) (UnitOfWork.change_within (hmem product) ?_) (hmet _)
    intro record updated hedit
    cases hedit
    rfl
  | delete product =>
    exact dependsOn_of_within (fun _ => rfl) (UnitOfWork.delete_within (hmem product)) (hmet _)
  | reserve reservation =>
    exact dependsOn_of_within (fun _ => rfl)
      (UnitOfWork.reserve_within (List.Subset.refl _) rfl) (hmetAt _ _)
  | resolve id resolution now =>
    refine dependsOn_of_within (fun _ => rfl)
      (UnitOfWork.resolve_within rfl (fun reservation hfound => ?_) resolution now) (hmetAt _ id)
    rw [footprint, hfound]
    exact List.Subset.refl _

/-- A call concerns the same rows after changes in others. -/
theorem footprint_of_keeps {call : RowCall} {after : MemoryStore} (hkeeps : rows.Keeps store after)
    (hdisjoint : rows.IsDisjoint (call.footprint store)) :
    call.footprint after = call.footprint store := by
  cases call with
  | resolve id resolution now =>
    have hother : rows.reservation ≠ some id := fun hid => hdisjoint.reservations id hid rfl
    rw [footprint, hkeeps.reservations id hother, footprint]
  | _ => rfl

/-- Calls that concern no row in common can change places. -/
theorem perform_comm (hkeyed : store.Keyed) {first second : RowCall}
    (hdisjoint : (first.footprint store).IsDisjoint (second.footprint store)) :
    (second.perform (first.perform store).2).1 = (second.perform store).1 ∧
      (first.perform (second.perform store).2).1 = (first.perform store).1 ∧
      (second.perform (first.perform store).2).2 = (first.perform (second.perform store).2).2 := by
  obtain ⟨hfirstAgrees, hfirstKeeps⟩ := dependsOn_footprint hkeyed first
  obtain ⟨hsecondAgrees, hsecondKeeps⟩ := dependsOn_footprint hkeyed second
  -- Each call is carried out in the store that the other has left as in the one that it found.
  obtain ⟨hfirst, hfirstRows⟩ := hfirstAgrees _ (hdisjoint.agrees hsecondKeeps)
  obtain ⟨hsecond, hsecondRows⟩ := hsecondAgrees _ (hdisjoint.symm.agrees hfirstKeeps)
  have hfirstLater := (dependsOn_footprint (hkeyed.answer second.toStoreCall) first).keeps
  have hsecondLater := (dependsOn_footprint (hkeyed.answer first.toStoreCall) second).keeps
  rw [show answer second.toStoreCall store = second.perform store from rfl,
    footprint_of_keeps hsecondKeeps hdisjoint.symm] at hfirstLater
  rw [show answer first.toStoreCall store = first.perform store from rfl,
    footprint_of_keeps hfirstKeeps hdisjoint] at hsecondLater
  refine ⟨hsecond, hfirst, ?_⟩
  have hinventory : (second.perform (first.perform store).2).2.inventory =
      (first.perform (second.perform store).2).2.inventory := by
    refine SortedMap.ext_find? fun product => ?_
    by_cases hin : product ∈ (first.footprint store).products
    · rw [hsecondLater.records product (hdisjoint.products hin), hfirstRows.records product hin]
    · rw [hfirstLater.records product hin]
      by_cases hother : product ∈ (second.footprint store).products
      · exact hsecondRows.records product hother
      · rw [hsecondLater.records product hother, hfirstKeeps.records product hin,
          hsecondKeeps.records product hother]
  have hreservations : (second.perform (first.perform store).2).2.reservations =
      (first.perform (second.perform store).2).2.reservations := by
    refine SortedMap.ext_find? fun id => ?_
    by_cases hin : (first.footprint store).reservation = some id
    · rw [hsecondLater.reservations id (hdisjoint.reservations id hin),
        hfirstRows.reservations id hin]
    · rw [hfirstLater.reservations id hin]
      by_cases hother : (second.footprint store).reservation = some id
      · exact hsecondRows.reservations id hother
      · rw [hsecondLater.reservations id hother, hfirstKeeps.reservations id hin,
          hsecondKeeps.reservations id hother]
  have hprocessed : (second.perform (first.perform store).2).2.processed =
      (first.perform (second.perform store).2).2.processed :=
    (hsecondLater.processed.trans hfirstKeeps.processed).trans
      (hfirstLater.processed.trans hsecondKeeps.processed).symm
  exact congr (congr (congrArg MemoryStore.mk hinventory) hreservations) hprocessed

/-- In a store that any calls have led to, two calls that concern no row in common have the same
answers, and leave the same store, in either order. -/
theorem independent_calls_commute (calls : List StoreCall) (first second : RowCall) :
    let store := MemoryStore.empty.afterAll calls
    (first.footprint store).IsDisjoint (second.footprint store) →
    let firstly := first.perform store
    let secondly := second.perform store
    (second.perform firstly.2).1 = secondly.1 ∧ (first.perform secondly.2).1 = firstly.1 ∧
      (second.perform firstly.2).2 = (first.perform secondly.2).2 :=
  fun hdisjoint => perform_comm (MemoryStore.Keyed.empty.afterAll calls) hdisjoint

/-- While an order of cups is released, plates are added: it does not matter which comes first. -/
theorem independent_calls_commute_of_cups_and_plates :
    let cup : ProductId := ⟨"cup", by decide⟩
    let plate : ProductId := ⟨"plate", by decide⟩
    let two : Quantity := ⟨2, by decide⟩
    let order : Reservation :=
      ⟨Uuid.ofNat 1, "order", [⟨cup, two⟩], .pending, .epoch, .epoch, .epoch⟩
    let calls : List StoreCall := [.create (StockRecord.create (Uuid.ofNat 2) cup two two .epoch),
      .create (StockRecord.create (Uuid.ofNat 3) plate two two .epoch), .reserve order]
    let release : RowCall := .resolve (Uuid.ofNat 1) .release .epoch
    let add : RowCall := .adjust plate ⟨.add, two⟩ .epoch
    let store := MemoryStore.empty.afterAll calls
    let released := release.perform store
    let added := add.perform store
    (release.footprint store).IsDisjoint (add.footprint store) ∧
      (add.perform released.2).1 = added.1 ∧ (release.perform added.2).1 = released.1 ∧
      (add.perform released.2).2 = (release.perform added.2).2 := by
  intro cup plate two order calls release add store released added
  have hreleased : (release.footprint store).products = [cup] := by decide +kernel
  have hproducts : List.Disjoint (release.footprint store).products [plate] := by
    rw [hreleased]
    exact List.disjoint_singleton.2 (by decide)
  have hdisjoint : (release.footprint store).IsDisjoint (add.footprint store) :=
    ⟨hproducts, fun _ _ => nofun⟩
  exact ⟨hdisjoint, independent_calls_commute calls release add hdisjoint⟩

end RowCall

end Stockroom
