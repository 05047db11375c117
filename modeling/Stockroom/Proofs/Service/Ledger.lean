import Stockroom.Proofs.Service.Calls
import Stockroom.Proofs.Store.Totals

/-!
# The ledger of a product

What the operations of a run bring to the record of a product can be read off
their arguments and outcomes.  From the creation of the record on, these
postings add up to its units.
-/

namespace Stockroom

theorem Adjustment.ofText_eq_ok {kind : String} {quantity : Int} {adjustment : Adjustment}
    (hok : ofText kind quantity = .ok adjustment) :
    AdjustmentKind.ofText kind = .ok adjustment.kind ∧ adjustment.quantity.value = quantity := by
  obtain ⟨read, hread, hadjustment⟩ := bind_eq_ok_iff.1 hok
  cases read with
  | set =>
    obtain ⟨units, hunits, hmade⟩ := bind_eq_ok_iff.1 hadjustment
    cases hmade
    exact ⟨hread, (Quantity.ofInt_eq_ok_iff.1 hunits).symm⟩
  | add | subtract =>
    obtain ⟨units, hunits, hmade⟩ := bind_eq_ok_iff.1 hadjustment
    cases hmade
    obtain ⟨value, hvalue, hpositive⟩ := bind_eq_ok_iff.1 hunits
    obtain ⟨_, _, hsame⟩ := bind_eq_ok_iff.1 hpositive
    cases hsame
    exact ⟨hread, (Quantity.ofInt_eq_ok_iff.1 hvalue).symm⟩

theorem Service.quantityOr_zero_eq_ok {given : Option Int} {quantity : Quantity}
    (hok : quantityOr .zero given = .ok quantity) : (quantity.value : Int) = given.getD 0 := by
  cases given with
  | none => cases hok; rfl
  | some value => exact (Quantity.ofInt_eq_ok_iff.1 hok).symm

/-- The available units of a product, none if it has no record. -/
def MemoryService.available (service : MemoryService) (product : ProductId) : Int :=
  ((service.store.inventory.find? product).map (·.available.value)).getD 0

namespace MadeCall

/-- The units that a call brings to the record of a product: an adjustment that succeeded brings
what it names, a confirmation that was applied takes the units of the reservation away, and nothing
else counts. -/
def posting (settings : ServiceSettings) (product : ProductId) : MadeCall → Int
  | ⟨service, ⟨.adjust text kind quantity, readings⟩⟩ =>
    match (Step.perform settings ⟨.adjust text kind quantity, readings⟩ service).1,
        AdjustmentKind.ofText kind with
    | .ok _, .ok kind =>
      if text = product.text then kind.units quantity (service.available product) else 0
    | _, _ => 0
  | ⟨service, ⟨.confirm id, readings⟩⟩ =>
    match (Step.perform settings ⟨.confirm id, readings⟩ service).1 with
    | .ok ⟨.applied, reservation⟩ => -(reservation.quantityOf product)
    | _ => 0
  | _ => 0

/-- A call that created the record of a product with so many units. -/
def Creates (settings : ServiceSettings) (product : ProductId) (initial : Int) :
    MadeCall → Prop
  | ⟨service, ⟨.create text given threshold, readings⟩⟩ =>
    text = product.text ∧ given.getD 0 = initial ∧
      ∃ record, (Step.perform settings ⟨.create text given threshold, readings⟩ service).1 =
        .ok record
  | _ => False

variable {settings : ServiceSettings} {product : ProductId} {service : MemoryService}
  {readings : Nat → ClockReading}

open MemoryStore (Moves)

/-- What the call posts is what happened to the units of the product. -/
def Posts (settings : ServiceSettings) (product : ProductId) (made : MadeCall) : Prop :=
  Moves product (made.posting settings product) made.met.store (made.left settings).store

theorem create_posts (text : String) (given threshold : Option Int) {record : StockRecord}
    (hfound : (left settings
      ⟨service, ⟨.create text given threshold, readings⟩⟩).store.inventory.find? product =
        some record) :
    Creates settings product record.total ⟨service, ⟨.create text given threshold, readings⟩⟩ ∨
      service.store.inventory.find? product = some record := by
  rcases Step.create_cases settings service readings text given threshold with
    ⟨_, _, hends⟩ | ⟨checked, hchecked, hends⟩
  · rw [left, hends.store] at hfound
    exact .inr hfound
  · obtain ⟨named, hnamed, hrest⟩ := bind_eq_ok_iff.1 hchecked
    obtain ⟨initial, hinitial, hrest⟩ := bind_eq_ok_iff.1 hrest
    obtain ⟨bound, _, hmade⟩ := bind_eq_ok_iff.1 hrest
    cases hmade
    have houtcome := hends.outcome
    rw [left, hends.store] at hfound
    simp only [MemoryStore.answer, MemoryStore.create] at hfound houtcome
    split at hfound
    · exact .inr hfound
    · rename_i hnew
      rw [if_neg hnew] at houtcome
      rw [SortedMap.find?_insert] at hfound
      split at hfound
      · rename_i hproduct
        obtain rfl := Option.some.inj hfound
        refine .inl ⟨?_, ?_, _, houtcome⟩
        · rw [← hproduct]
          exact (ProductId.ofText_eq_ok_iff.1 hnamed).symm
        · exact (Service.quantityOr_zero_eq_ok hinitial).symm
      · exact .inr hfound

theorem adjust_posts (hbalanced : service.store.Balanced) (text kind : String) (quantity : Int) :
    Posts settings product ⟨service, ⟨.adjust text kind quantity, readings⟩⟩ := by
  rw [Posts, posting, left]
  rcases Step.adjust_cases settings service readings text kind quantity with
    ⟨_, _, hends⟩ | ⟨checked, hchecked, hends⟩
  · rw [hends.outcome, hends.store]
    exact .refl _
  · obtain ⟨named, hnamed, hrest⟩ := bind_eq_ok_iff.1 hchecked
    obtain ⟨adjustment, hadjustment, hmade⟩ := bind_eq_ok_iff.1 hrest
    cases hmade
    obtain ⟨hkind, hquantity⟩ := Adjustment.ofText_eq_ok hadjustment
    rw [hends.outcome, hends.store, hkind, MemoryStore.answer]
    rcases Moves.adjust product hbalanced.toKeyed named adjustment (readings 0).clock with
      ⟨error, heq⟩ | ⟨record, updated, hfound, hdone, hmoves⟩
    · rw [heq]
      exact .refl _
    · have hname : text = product.text ↔ named = product := by
        rw [← ProductId.ofText_eq_ok_iff.1 hnamed]
        exact ⟨ProductId.ext, congrArg ProductId.text⟩
      simp only [hdone, mapError_ok, hname]
      by_cases hproduct : named = product
      · subst hproduct
        simpa [MemoryService.available, hfound, hquantity] using hmoves
      · simpa only [if_neg hproduct] using hmoves

theorem confirm_posts (hbalanced : service.store.Balanced) (id : Uuid) :
    Posts settings product ⟨service, ⟨.confirm id, readings⟩⟩ := by
  have hmoves := Moves.resolve hbalanced product id .confirm (readings 0).clock
  have hends := Step.confirm_ends settings service readings id
  rw [Posts, posting, left, hends.outcome, hends.store, MemoryStore.answer]
  cases hdone : (service.store.perform
      (UnitOfWork.resolve id .confirm (readings 0).clock)).1 with
  | error error =>
    simp only [MemoryStore.answer, hdone] at hmoves
    exact hmoves
  | ok outcome =>
    simp only [MemoryStore.answer, hdone] at hmoves
    rcases outcome with ⟨transition, reservation⟩
    cases transition <;> exact hmoves

end MadeCall

/-! ## Operations that post nothing -/

/-- The operations that leave the units of every product alone. -/
def Operation.KeepsUnits : Operation → Prop
  | create _ _ _ | adjust _ _ _ | confirm _ => False
  | _ => True

namespace Step

open MemoryStore (Moves)

variable {settings : ServiceSettings} {product : ProductId} {service : MemoryService}
  {readings : Nat → ClockReading}

theorem moves_setThreshold (hbalanced : service.store.Balanced) (text : String)
    (threshold : Int) :
    Moves product 0 service.store
      (Step.perform settings ⟨.setThreshold text threshold, readings⟩ service).2.store := by
  rcases setThreshold_cases settings service readings text threshold with
    ⟨_, _, hends⟩ | ⟨checked, _, hends⟩
  · rw [hends.store]
    exact .refl _
  · rw [hends.store]
    exact .setThreshold hbalanced.toKeyed _ _ _

theorem moves_delete (text : String) :
    Moves product 0 service.store
      (Step.perform settings ⟨.delete text, readings⟩ service).2.store := by
  rcases delete_cases settings service readings text with ⟨_, _, hends⟩ | ⟨removed, _, hends⟩
  · rw [hends.store]
    exact .refl _
  · rw [hends.store]
    exact .delete _

theorem moves_reserve (hbalanced : service.store.Balanced) (orderId : String)
    (lines : List RequestedLine) :
    Moves product 0 service.store
      (Step.perform settings ⟨.reserve orderId lines, readings⟩ service).2.store := by
  rcases reserve_cases settings service readings orderId lines with
    ⟨_, _, hends⟩ | ⟨checked, _, hends⟩
  · rw [hends.store]
    exact .refl _
  · split at hends
    · rw [hends.store]
      exact .refl _
    · rw [hends.store]
      exact .refl _
    · rename_i reservation hmake
      have hnew := (Reservation.isNew_of_make hmake).1
      rw [hends.store]
      exact .reserve hbalanced.toKeyed hnew.consolidated.distinct

variable (settings product) in
theorem moves_expiries (now : Instant) (readings : Nat → ClockReading)
    (reservations : List Reservation) (service : MemoryService)
    (hreachable : service.store.Reachable) (state : MemoryService × Nat) :
    Moves product 0 service.store
      (service.after settings (Sweep.expiries now readings state reservations)).store := by
  induction reservations generalizing service state with
  | nil => exact .refl _
  | cons reservation rest ih =>
    let expiring : Step :=
      ⟨.expire reservation.id now, fun index => readings (state.2 + index)⟩
    have hexpired : Moves product 0 service.store (expiring.perform settings service).2.store := by
      rw [(expire_ends _ _ _ reservation.id now).store]
      exact .giveBack hreachable.balanced product reservation.id .expire (by decide) now
    have hnext : (expiring.perform settings service).2.store.Reachable :=
      MemoryService.reachable_perform settings trivial hreachable
    exact hexpired.trans (ih _ hnext _)

theorem moves_of_keepsUnits {step : Step} (hreachable : service.store.Reachable)
    (hkeeps : step.operation.KeepsUnits) :
    Moves product 0 service.store (step.perform settings service).2.store := by
  have hbalanced := hreachable.balanced
  have hlooked (hlook : step.operation.IsLook) :
      Moves product 0 service.store (step.perform settings service).2.store :=
    .of_inventory (congrArg (·.inventory.find? product) (store_of_isLook settings service hlook))
  rcases step with ⟨operation, readings⟩
  cases operation with
  | create _ _ _ | adjust _ _ _ | confirm _ => exact hkeeps.elim
  | setThreshold text threshold => exact moves_setThreshold hbalanced text threshold
  | delete text => exact moves_delete text
  | reserve orderId lines => exact moves_reserve hbalanced orderId lines
  | release id =>
    rw [(release_ends _ _ _ id).store]
    exact .giveBack hbalanced product id .release (by decide) _
  | expire id now =>
    rw [(expire_ends _ _ _ id now).store]
    exact .giveBack hbalanced product id .expire (by decide) now
  | sweep now batch =>
    let fetch : Step := ⟨.overdue now batch, readings⟩
    have hfetched : (fetch.perform settings service).2.store = service.store :=
      store_of_isLook settings service trivial
    have hnext : (fetch.perform settings service).2.store.Reachable :=
      MemoryService.reachable_perform settings trivial hreachable
    have hmoves := moves_expiries settings product now readings
      (service.store.overdue now batch) _ hnext ((fetch.perform settings service).2, 1)
    rw [← MemoryService.after_stepCalls]
    rw [hfetched] at hmoves
    exact hmoves
  | get _ | check _ _ | bulkCheck _ | lowStock _ _ | getReservation _ | overdue _ _ =>
    exact hlooked trivial

end Step

/-! ## Runs -/

namespace MadeCall

variable {settings : ServiceSettings} {product : ProductId}

/-- A call that left a record of a product either created it, or found one whose units it changed
by what it posts. -/
theorem creates_or_posts (made : MadeCall) (hreachable : made.met.store.Reachable)
    {record : StockRecord}
    (hfound : (made.left settings).store.inventory.find? product = some record) :
    made.Creates settings product record.total ∨
      ∃ old, made.met.store.inventory.find? product = some old ∧
        (record.total : Int) = old.total + made.posting settings product := by
  have hbalanced := hreachable.balanced
  have hkept (hkeeps : made.step.operation.KeepsUnits) :
      ∃ old, made.met.store.inventory.find? product = some old ∧
        (record.total : Int) = old.total := by
    simpa using Step.moves_of_keepsUnits hreachable hkeeps record hfound
  rcases made with ⟨service, operation, readings⟩
  cases operation with
  | create text given threshold =>
    refine (create_posts text given threshold hfound).imp_right fun hsame => ?_
    exact ⟨record, hsame, (Int.add_zero _).symm⟩
  | adjust text kind quantity =>
    exact .inr (adjust_posts hbalanced text kind quantity record hfound)
  | confirm id => exact .inr (confirm_posts hbalanced id record hfound)
  | _ =>
    obtain ⟨old, hold, htotal⟩ := hkept trivial
    exact .inr ⟨old, hold, htotal.trans (Int.add_zero _).symm⟩

end MadeCall

namespace MemoryService

/-- The service has a record of a product. -/
def Stocks (service : MemoryService) (product : ProductId) : Prop :=
  ∃ record, service.store.inventory.find? product = some record

/-- A record at the end of a run either was there at its start and all through it, or was created
by one of its calls; since then what was posted adds up to the change of its units. -/
theorem total_cases (settings : ServiceSettings) {service : MemoryService} {steps : List Step}
    (hfresh : service.DrawsFresh settings steps) (hreachable : service.store.Reachable)
    {product : ProductId} {record : StockRecord}
    (hfound : (service.after settings steps).store.inventory.find? product = some record) :
    (∃ old, service.store.inventory.find? product = some old ∧
      (∀ one ∈ service.made settings steps, (one.left settings).Stocks product) ∧
      (record.total : Int) = old.total +
        ((service.made settings steps).map (·.posting settings product)).sum) ∨
    ∃ earlier created later initial, service.made settings steps = earlier ++ created :: later ∧
      created.Creates settings product initial ∧
      (∀ one ∈ created :: later, (one.left settings).Stocks product) ∧
      (record.total : Int) = initial + (later.map (·.posting settings product)).sum := by
  induction steps generalizing service with
  | nil => exact .inl ⟨record, hfound, fun _ => nofun, (Int.add_zero _).symm⟩
  | cons step rest ih =>
    have hnext := reachable_perform settings hfresh.1 hreachable
    rcases ih hfresh.2 hnext hfound with
      ⟨old, hold, hstocks, htotal⟩ | ⟨earlier, created, later, initial, hmade, hlater⟩
    · have hall : ∀ one ∈ service.made settings (step :: rest),
          (one.left settings).Stocks product := List.forall_mem_cons.2 ⟨⟨old, hold⟩, hstocks⟩
      rcases MadeCall.creates_or_posts ⟨service, step⟩ hreachable hold with
        hcreates | ⟨first, hfirst, hposted⟩
      · exact .inr ⟨[], ⟨service, step⟩, _, _, rfl, hcreates, hall, htotal⟩
      · refine .inl ⟨first, hfirst, hall, ?_⟩
        rw [made, List.map_cons, List.sum_cons]
        omega
    · exact .inr ⟨⟨service, step⟩ :: earlier, created, later, initial,
        congrArg (List.cons _) hmade, hlater⟩

/-- After any sequence of operations from an empty store, the units of every record, available and
held, are those with which it was created and what has been posted since. -/
theorem total_eq_ledger (settings : ServiceSettings) (lifetime : Option Nat) (clock : Instant)
    (supply : Nat → Uuid) (steps : List Step)
    (hfresh : (start lifetime clock supply).DrawsFresh settings steps) :
    let service := start lifetime clock supply
    ∀ product record, (service.after settings steps).store.inventory.find? product = some record →
      ∃ earlier created later initial,
        service.made settings steps = earlier ++ created :: later ∧
        created.Creates settings product initial ∧
        (∀ one ∈ created :: later, (one.left settings).Stocks product) ∧
        (record.available.value + record.reserved.value : Int) =
          initial + (later.map (·.posting settings product)).sum := by
  intro service product record hfound
  rcases total_cases settings hfresh .empty hfound with ⟨_, hold, _⟩ | hcreated
  · cases hold
  · simpa only [StockRecord.total, Int.natCast_add] using hcreated

/-- Of five cups four are added and three are sold. -/
theorem total_eq_ledger_of_one_sale :
    let cup : ProductId := ⟨"cup", by decide⟩
    let moment : ClockReading := ⟨0, .epoch, .epoch⟩
    let settings : ServiceSettings := ⟨⟨900000000000⟩⟩
    let steps : List Step := [⟨.create "cup" (some 5) none, fun _ => moment⟩,
      ⟨.adjust "cup" "ADD" 4, fun _ => moment⟩,
      ⟨.reserve "order" [⟨"cup", 3⟩], fun _ => moment⟩,
      ⟨.confirm (Uuid.ofNat 1), fun _ => moment⟩]
    let service := start none .epoch Uuid.ofNat
    service.DrawsFresh settings steps ∧
      (service.made settings steps).map (·.posting settings cup) = [0, 4, 0, -3] ∧
      ∃ record, (service.after settings steps).store.inventory.find? cup = some record ∧
        ∃ earlier created later initial,
          service.made settings steps = earlier ++ created :: later ∧
          created.Creates settings cup initial ∧
          (record.available.value + record.reserved.value : Int) =
            initial + (later.map (·.posting settings cup)).sum := by
  intro cup moment settings steps service
  have hfresh : service.DrawsFresh settings steps :=
    ⟨trivial, trivial, fun _ _ => rfl, trivial, trivial⟩
  have hstocked : ((service.after settings steps).store.inventory.find? cup).isSome = true := by
    decide +kernel
  obtain ⟨record, hfound⟩ := Option.isSome_iff_exists.1 hstocked
  have hledger := total_eq_ledger settings none .epoch Uuid.ofNat steps hfresh cup record
  rw [show start none .epoch Uuid.ofNat = service from rfl] at hledger
  obtain ⟨earlier, created, later, initial, hmade, hcreates, _, htotal⟩ := hledger hfound
  refine ⟨hfresh, by decide +kernel, record, hfound, earlier, created, later, initial, hmade,
    hcreates, htotal⟩

end MemoryService

end Stockroom
