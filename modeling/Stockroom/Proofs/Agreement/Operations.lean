import Stockroom.Proofs.Agreement.Lockstep
import Stockroom.Proofs.Service.Reading

/-!
# Operations over both stores

The operations of the service ask their stores only for what both answer
alike.  A batched lookup may list its records in different orders, of which
nothing is left in what is remembered of them.
-/

namespace Stockroom

open Program (Conforms)
open Program.Conforms

/-- An operation whose arguments are as the interface has them: page numbers and numbers of lines
in their ranges, and times of whole microseconds. -/
def Operation.IsOrdinary : Operation → Prop
  | .lowStock _ request => request.page < 4294967296
  | .reserve _ lines => lines.length < 2147483648
  | .expire _ now | .overdue now _ | .sweep now _ => now.IsWhole
  | _ => True

theorem length_of_mapM_eq_ok {ε α β : Type} {read : α → Except ε β} {list : List α}
    {results : List β} (hresults : list.mapM read = .ok results) :
    results.length = list.length := by
  induction list generalizing results with
  | nil =>
    cases hresults
    rfl
  | cons first rest ih =>
    rw [List.mapM_cons] at hresults
    obtain ⟨one, _, hrest⟩ := bind_eq_ok_iff.1 hresults
    obtain ⟨others, hothers, hresults⟩ := bind_eq_ok_iff.1 hrest
    cases hresults
    rw [List.length_cons, List.length_cons, ih hothers]

namespace ServiceCall

theorem fitting_permitsReads : Service.PermitsReads fitting :=
  ⟨fun _ _ => trivial, fun _ _ => trivial, fun _ _ => trivial⟩

namespace Fits

theorem resolve (id : Uuid) (resolution : Resolution) {now : Instant} (hwhole : now.IsWhole) :
    Fits (Service.resolve id resolution now) := by
  intro drawn
  refine store_bind hwhole (fun outcome _ => ?_) fun _ _ => trivial
  cases outcome.wasApplied with
  | true =>
    exact (Service.forgetLines_conforms fitting_permitsReads _).bind
      (fun _ _ _ => .pure trivial) fun _ _ _ => trivial
  | false => exact .pure trivial

/-- A resolution at the present instant. -/
theorem resolveNow (id : Uuid) (resolution : Resolution) :
    Fits (do Service.resolve id resolution (← ServiceCall.aside .now)) :=
  fun _ => aside_bind trivial fun _ hwhole => resolve id resolution hwhole _

theorem create (product : String) (initial threshold : Option Int) :
    Fits (Service.create product initial threshold) := by
  intro drawn
  refine obey_bind (fun product _ => ?_) fun _ => trivial
  refine obey_bind (fun initial _ => ?_) fun _ => trivial
  refine obey_bind (fun threshold _ => ?_) fun _ => trivial
  refine aside_bind trivial fun id _ => ?_
  refine aside_bind trivial fun now hnow => ?_
  have hwhole : (StockRecord.create id product initial threshold now).IsWhole := by
    refine ⟨fun time htime => ?_, hnow, hnow⟩
    change (if initial.isZero then none else some now) = some time at htime
    split at htime
    · cases htime
    · cases htime
      exact hnow
  refine store_bind ⟨fun hunused => hunused rfl, hwhole, _, _, _, _, _, rfl⟩
    (fun created _ => ?_) fun _ _ => trivial
  exact aside_bind trivial fun _ _ => .pure trivial

theorem adjust (product kind : String) (quantity : Int) :
    Fits (Service.adjust product kind quantity) := by
  intro drawn
  refine obey_bind (fun product _ => ?_) fun _ => trivial
  refine obey_bind (fun adjustment _ => ?_) fun _ => trivial
  refine aside_bind trivial fun now hnow => ?_
  refine store_bind hnow (fun updated _ => ?_) fun _ _ => trivial
  exact aside_bind trivial fun _ _ => .pure trivial

theorem setThreshold (product : String) (threshold : Int) :
    Fits (Service.setThreshold product threshold) := by
  intro drawn
  refine obey_bind (fun product _ => ?_) fun _ => trivial
  refine obey_bind (fun threshold _ => ?_) fun _ => trivial
  refine aside_bind trivial fun now hnow => ?_
  refine store_bind hnow (fun updated _ => ?_) fun _ _ => trivial
  exact aside_bind trivial fun _ _ => .pure trivial

theorem delete (product : String) : Fits (Service.delete product) := by
  intro drawn
  refine obey_bind (fun product _ => ?_) fun _ => trivial
  refine store_bind trivial (fun _ _ => ?_) fun _ _ => trivial
  exact aside_bind trivial fun _ _ => .pure trivial

theorem lowStock (threshold : Option Int) {request : PageRequest}
    (hpage : request.page < 4294967296) : Fits (Service.lowStock threshold request) := by
  intro drawn
  rw [Service.lowStock]
  split
  · exact .refuse trivial
  · split
    · exact .refuse trivial
    · rename_i hlimit
      refine obey_bind (fun threshold _ => ?_) fun _ => trivial
      refine ⟨?_, fun _ _ => trivial⟩
      have hoffset : request.offset ≤ 4294967296 * StockError.maximumPageLimit :=
        Nat.mul_le_mul (by omega) (by omega)
      exact hoffset.trans_lt (by decide)

/-- A reservation has the id that was drawn for it, and the deadline is whole with its hold. -/
theorem reserve {settings : ServiceSettings} (hholdFor : settings.holdFor.nanoseconds % 1000 = 0)
    (orderId : String) {lines : List RequestedLine} (hshort : lines.length < 2147483648) :
    Fits (Service.reserve settings orderId lines) := by
  intro drawn
  refine obey_bind (fun checked hchecked => ?_) fun _ => trivial
  refine aside_bind trivial fun id _ => ?_
  refine aside_bind trivial fun now hnow => ?_
  cases hmake : Reservation.make id orderId checked settings.holdFor now with
  | error obstacle =>
    cases obstacle with
    | violation violation => exact .refuse trivial
    | deadlineOutOfRange => exact .throw trivial
  | ok reservation =>
    obtain ⟨hnew, hid⟩ := Reservation.isNew_of_make hmake
    obtain ⟨consolidated, expiresAt, hconsolidate, hadd, heq⟩ := Reservation.make_eq_ok hmake
    have hwhole : reservation.IsWhole := by
      rw [heq]
      exact ⟨Instant.isWhole_of_add? hnow hholdFor hadd, hnow, hnow⟩
    have hlines : reservation.lines.length ≤ Database.ItemRow.positionLimit := by
      have hlength := ReservationLine.length_consolidate_le hconsolidate
      rw [length_of_mapM_eq_ok hchecked] at hlength
      rw [heq]
      exact hlength.trans hshort.le
    refine store_bind ⟨fun hunused => hunused (congrArg some hid.symm), hnew, hwhole, hlines⟩
      (fun reservation _ => ?_) fun _ _ => trivial
    exact (Service.forgetLines_conforms fitting_permitsReads _).bind
      (fun _ _ _ => .pure trivial) fun _ _ _ => trivial

theorem expireAll {now : Instant} (hwhole : now.IsWhole) (report : SweepReport)
    (reservations : List Reservation) (drawn : Option Uuid) :
    (Sweep.expireAll now report reservations).Follows fitting (fun _ _ => True) drawn := by
  induction reservations generalizing report drawn with
  | nil => exact trivial
  | cons reservation rest ih =>
    refine (Program.follows_bind _ _ _).2 ?_
    exact (resolve reservation.id .expire hwhole drawn).run.mono fun _ _ _ => ih _ _

end Fits

end ServiceCall

/-! ## Batched lookups -/

section BulkCheck

variable {given : Circumstances} {α β : Type}

theorem ServiceCall.Fits.alike (hreadings : ∀ index, (given.readings index).clock.IsWhole)
    {call : ServiceCall α} (hfits : call.Fits) : Alike given (· = ·) call.run call.run :=
  alike_of_follows hreadings fun drawn => (hfits drawn).run

theorem Alike.pure (value : α) : Alike given (· = ·) (.done value) (.done value) :=
  fun drawn _ _ hrelated _ => ⟨rfl, drawn, hrelated⟩

theorem Alike.except_bind {call : ServiceCall α} {next : α → ServiceCall β}
    (hcall : Alike given (· = ·) call.run call.run)
    (hnext : ∀ value, Alike given (· = ·) (next value).run (next value).run) :
    Alike given (· = ·) (call >>= next).run (call >>= next).run := by
  refine Alike.bind hcall fun one other hsame => ?_
  obtain rfl := hsame
  cases one with
  | ok value => exact hnext value
  | error error => exact Alike.pure _

/-- A batched lookup finds the same record of each product in both stores. -/
theorem Database.Contents.Mirrors.find?_filter {contents : Database.Contents}
    {store : MemoryStore} {ids : Set Uuid} (hmirrors : contents.Mirrors store ids)
    {products : List ProductId} {product : ProductId} (hmem : product ∈ products) :
    (contents.records.filter fun record => decide (record.product ∈ products)).reverse.find?
      (·.product == product) = (store.findMany products).reverse.find? (·.product == product) := by
  rw [MemoryStore.find?_findMany hmirrors.keyed hmem, ← hmirrors.found]
  have hdistinct : ((contents.records.filter fun record =>
      decide (record.product ∈ products)).reverse.map StockRecord.product).Nodup := by
    rw [List.map_reverse, List.nodup_reverse]
    exact (List.filter_sublist.map _).nodup hmirrors.products
  ext record
  rw [Keys.find?_eq_some_iff hdistinct, Keys.find?_eq_some_iff hmirrors.products,
    List.mem_reverse, List.mem_filter, decide_eq_true_iff]
  constructor
  · rintro ⟨⟨hrecord, _⟩, hproduct⟩
    exact ⟨hrecord, hproduct⟩
  · rintro ⟨hrecord, rfl⟩
    exact ⟨⟨hrecord, hmem⟩, rfl⟩

/-- What is remembered of a batched lookup does not depend on the order of its records. -/
theorem Service.rememberAll_congr {found other : List StockRecord}
    {products : List (ProductId × UInt64)}
    (hsame : ∀ pair ∈ products, found.reverse.find? (·.product == pair.1) =
      other.reverse.find? (·.product == pair.1)) :
    rememberAll found products = rememberAll other products := by
  induction products with
  | nil => rfl
  | cons pair rest ih =>
    obtain ⟨hfirst, hrest⟩ := List.forall_mem_cons.1 hsame
    rw [rememberAll, rememberAll, hfirst, ih hrest]

/-- Records that are alike to whoever looks for one of some products among them. -/
def SameLookups (products : List ProductId) (found others : List StockRecord) : Prop :=
  ∀ product ∈ products, others.reverse.find? (·.product == product) =
    found.reverse.find? (·.product == product)

theorem alike_findMany (products : List ProductId) :
    Alike given (fun one other => ∃ found others, one = .ok found ∧ other = .ok others ∧
        SameLookups products found others)
      (ServiceCall.store (.findMany products)).run
      (ServiceCall.store (.findMany products)).run := by
  intro drawn state twin hrelated horderly
  obtain ⟨contents, ids, hidle, hmirrors, hids⟩ := (hrelated.arranged (given.rows twin.2)).store
  obtain ⟨hanswer, hidle⟩ := Database.answers_findMany products _ hidle horderly.served
  refine ⟨⟨_, _, rfl, congrArg (Except.mapError CallFailure.stock) hanswer, fun product hmem =>
    hmirrors.find?_filter hmem⟩, none, ?_⟩
  exact hrelated.read hidle hmirrors hids (given.readings state.2) (given.readings twin.2)

theorem alike_lookupMissing (hreadings : ∀ index, (given.readings index).clock.IsWhole)
    (missing : List ProductId) :
    Alike given (· = ·) (Service.lookupMissing missing).run
      (Service.lookupMissing missing).run := by
  rw [Service.lookupMissing]
  split
  · exact Alike.pure _
  · have hgenerations : ServiceCall.Fits (Service.takeGenerations missing) := fun _ =>
      Service.takeGenerations_conforms ServiceCall.fitting_permitsReads missing
    refine Alike.except_bind (hgenerations.alike hreadings) fun generations => ?_
    refine Alike.bind (alike_findMany missing) fun one other hfound => ?_
    obtain ⟨found, others, rfl, rfl, hsame⟩ := hfound
    have hremember : Service.rememberAll others (missing.zip generations) =
        Service.rememberAll found (missing.zip generations) :=
      Service.rememberAll_congr fun pair hpair => hsame pair.1 (List.of_mem_zip hpair).1
    have hfits : ServiceCall.Fits (Service.rememberAll found (missing.zip generations)) :=
      fun _ => Service.rememberAll_conforms ServiceCall.fitting_permitsReads _ _
    change Alike given _ (Service.rememberAll found _).run (Service.rememberAll others _).run
    rw [hremember]
    exact hfits.alike hreadings

theorem alike_bulkCheck (hreadings : ∀ index, (given.readings index).clock.IsWhole)
    (lines : List CheckLine) :
    Alike given (· = ·) (Service.bulkCheck lines).run (Service.bulkCheck lines).run := by
  rw [Service.bulkCheck]
  refine Alike.except_bind (Alike.pure _) fun lines => ?_
  have hconsult : ServiceCall.Fits (Service.consultCache (Service.distinct (lines.map Prod.fst))) :=
    fun _ => Service.consultCache_conforms ServiceCall.fitting_permitsReads _
  refine Alike.except_bind (hconsult.alike hreadings) fun consulted => ?_
  exact Alike.except_bind (alike_lookupMissing hreadings consulted.2) fun _ => Alike.pure _

end BulkCheck

end Stockroom
