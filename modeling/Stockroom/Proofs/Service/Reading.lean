import Stockroom.Proofs.Cache
import Stockroom.Proofs.Service.Operation
import Stockroom.Proofs.Service.Request
import Stockroom.Proofs.Store.Effects

/-!
# Reading stock

A read asks the cache and the store for the records of products.  As long as
both answer from the same records, what it returns depends on these records
only.
-/

namespace Stockroom

/-- The operations that read the stock of products through the cache. -/
def Operation.ReadsStock : Operation → Prop
  | .get _ | .check _ _ | .bulkCheck _ => True
  | _ => False

theorem Service.mem_distinct {products : List ProductId} {product : ProductId}
    (hmem : product ∈ products) : product ∈ distinct products := by
  induction products with
  | nil => cases hmem
  | cons first rest ih =>
    by_cases hsame : product = first
    · exact List.mem_cons.2 (.inl hsame)
    · have hrest := ih ((List.mem_cons.1 hmem).resolve_left hsame)
      exact List.mem_cons_of_mem _ (List.mem_filter.2 ⟨hrest, decide_eq_true hsame⟩)

/-- Reading while every answer comes from the same records. -/
def reading (recorded : ProductId → Option StockRecord) :
    Protocol ServiceRequest ServiceRequest.Answer Unit where
  allows _ request :=
    match request with
    | .store (.find _) | .store (.findMany _) => True
    | .aside (.cached _) | .aside (.generation _) | .aside (.remember _ _ _) => True
    | _ => False
  expects _ request answer :=
    match request, answer with
    | .store (.find product), answer => answer = .ok (recorded product)
    | .store (.findMany products), answer => ∃ found : List StockRecord, answer = .ok found ∧
        ∀ product ∈ products, found.reverse.find? (·.product == product) = recorded product
    | .aside (.cached product), cached => ∀ record, cached = some record → record = recorded product
    | _, _ => True
  next _ _ _ := ()

namespace ServiceCall

/-- Such a call returns this outcome whenever all answers come from these records. -/
def Reads {α : Type} (recorded : ProductId → Option StockRecord) (call : ServiceCall α)
    (outcome : Except CallFailure α) : Prop :=
  Program.Conforms (reading recorded) (fun result _ => result = outcome) call ()

namespace Reads

open Program (Conforms)
open Program.Conforms

variable {α β : Type} {recorded : ProductId → Option StockRecord}

theorem bind {call : ServiceCall α} {next : α → ServiceCall β} {value : α}
    {outcome : Except CallFailure β} (hcall : Reads recorded call (.ok value))
    (hnext : Reads recorded (next value) outcome) : Reads recorded (call >>= next) outcome := by
  refine Conforms.bind hcall (fun result _ heq => ?_) fun _ _ => nofun
  cases heq
  exact hnext

theorem obey_ok_bind {value : α} {next : α → ServiceCall β} {outcome : Except CallFailure β}
    (hnext : Reads recorded (next value) outcome) :
    Reads recorded (Service.obey (.ok value) >>= next) outcome := ⟨hnext.run⟩

theorem obey_error_bind (violation : Violation) (next : α → ServiceCall β) :
    Reads recorded (Service.obey (.error violation) >>= next)
      (.error (.stock (.violation violation))) := ⟨rfl⟩

/-- A call whose arguments break a rule fails alike every time. -/
theorem obey_bind {result : Except Violation α} {next : α → ServiceCall β}
    (hnext : ∀ value, result = .ok value → ∃ outcome, Reads recorded (next value) outcome) :
    ∃ outcome, Reads recorded (Service.obey result >>= next) outcome := by
  cases result with
  | ok value =>
    obtain ⟨outcome, hreads⟩ := hnext value rfl
    exact ⟨outcome, obey_ok_bind hreads⟩
  | error violation => exact ⟨_, obey_error_bind violation next⟩

theorem lookup (product : ProductId) :
    Reads recorded (Service.lookup product) (.ok (recorded product)) := by
  refine aside_bind trivial fun cached hcached => ?_
  cases cached with
  | some record =>
    rw [hcached record rfl]
    exact .pure rfl
  | none =>
    refine aside_bind trivial fun generation _ => ?_
    refine store_bind trivial (fun record hrecord => ?_) fun error herror => ?_
    · obtain rfl := Except.ok.inj hrecord
      exact aside_bind trivial fun _ _ => .pure rfl
    · cases herror

/-- Some of these products are known, and the others are missing. -/
structure Splits (recorded : ProductId → Option StockRecord) (products : List ProductId)
    (known : Service.KnownRecords) (missing : List ProductId) : Prop where
  sound : ∀ pair ∈ known, pair.2 = recorded pair.1
  complete : ∀ product ∈ products, product ∈ missing ∨ product ∈ known.map Prod.fst

theorem lookup_of_sound {known : Service.KnownRecords} {product : ProductId}
    (hsound : ∀ pair ∈ known, pair.2 = recorded pair.1) (hmem : product ∈ known.map Prod.fst) :
    known.lookup product = some (recorded product) := by
  induction known with
  | nil => cases hmem
  | cons pair rest ih =>
    obtain ⟨hpair, hrest⟩ := List.forall_mem_cons.1 hsound
    rw [List.map_cons, List.mem_cons] at hmem
    rw [List.lookup_cons]
    by_cases hsame : product = pair.1
    · rw [beq_iff_eq.2 hsame, hsame]
      exact congrArg some hpair
    · rw [beq_eq_false_iff_ne.2 hsame]
      exact ih hrest (hmem.resolve_left hsame)

/-- What is known, and what is then looked up, together hold every product. -/
theorem Splits.lookup_append {products : List ProductId} {known : Service.KnownRecords}
    {missing : List ProductId} (hsplits : Splits recorded products known missing)
    {product : ProductId} (hmem : product ∈ products) :
    (known ++ missing.map fun product => (product, recorded product)).lookup product =
      some (recorded product) := by
  refine lookup_of_sound (fun pair hpair => ?_) ?_
  · rcases List.mem_append.1 hpair with hknown | hlooked
    · exact hsplits.sound pair hknown
    · obtain ⟨_, _, rfl⟩ := List.mem_map.1 hlooked
      rfl
  · rw [List.map_append, List.mem_append, List.map_map]
    rcases hsplits.complete product hmem with hmissing | hknown
    · exact .inr (List.mem_map.2 ⟨product, hmissing, rfl⟩)
    · exact .inl hknown

theorem consultCache (products : List ProductId) :
    Conforms (reading recorded) (fun outcome _ => ∃ known missing,
      outcome = .ok (known, missing) ∧ Splits recorded products known missing)
      (Service.consultCache products) () := by
  induction products with
  | nil =>
    exact .pure ⟨[], [], rfl, fun _ hmem => (List.not_mem_nil hmem).elim,
      fun _ hmem => (List.not_mem_nil hmem).elim⟩
  | cons product rest ih =>
    refine aside_bind trivial fun cached hcached => ?_
    refine ih.bind (fun outcome _ hrest => ?_) fun _ _ hrest => ?_
    · obtain ⟨known, missing, heq, hsplits⟩ := hrest
      cases heq
      refine .pure ?_
      cases cached with
      | some record =>
        refine ⟨(product, record) :: known, missing, rfl, ?_, fun other hother => ?_⟩
        · exact List.forall_mem_cons.2 ⟨hcached record rfl, hsplits.sound⟩
        · rcases List.mem_cons.1 hother with rfl | hother
          · exact .inr List.mem_cons_self
          · exact (hsplits.complete other hother).imp_right (List.mem_cons_of_mem _)
      | none =>
        refine ⟨known, product :: missing, rfl, hsplits.sound, fun other hother => ?_⟩
        rcases List.mem_cons.1 hother with rfl | hother
        · exact .inl List.mem_cons_self
        · exact (hsplits.complete other hother).imp_left (List.mem_cons_of_mem _)
    · obtain ⟨_, _, heq, _⟩ := hrest
      cases heq

theorem takeGenerations (products : List ProductId) :
    Conforms (reading recorded) (fun outcome _ => ∃ generations : List UInt64,
      outcome = .ok generations ∧ generations.length = products.length)
      (Service.takeGenerations products) () := by
  induction products with
  | nil => exact .pure ⟨[], rfl, rfl⟩
  | cons product rest ih =>
    refine aside_bind trivial fun generation _ => ?_
    refine ih.bind (fun generations _ hrest => ?_) fun _ _ hrest => ?_
    · obtain ⟨_, heq, hlength⟩ := hrest
      cases heq
      exact .pure ⟨generation :: generations, rfl, congrArg (· + 1) hlength⟩
    · obtain ⟨_, heq, _⟩ := hrest
      cases heq

theorem rememberAll {found : List StockRecord} {pairs : List (ProductId × UInt64)}
    (hfound : ∀ pair ∈ pairs, found.reverse.find? (·.product == pair.1) = recorded pair.1) :
    Reads recorded (Service.rememberAll found pairs)
      (.ok (pairs.map fun pair => (pair.1, recorded pair.1))) := by
  induction pairs with
  | nil => exact .pure rfl
  | cons pair rest ih =>
    obtain ⟨hfirst, hrest⟩ := List.forall_mem_cons.1 hfound
    refine aside_bind trivial fun _ _ => (ih hrest).bind ?_
    rw [List.map_cons, ← hfirst]
    exact .pure rfl

theorem lookupMissing (missing : List ProductId) :
    Conforms (reading recorded) (fun outcome _ =>
      outcome = .ok (missing.map fun product => (product, recorded product)))
      (Service.lookupMissing missing) () := by
  rw [Service.lookupMissing]
  split
  · rename_i hempty
    rw [List.isEmpty_iff.1 hempty]
    exact .pure rfl
  · refine (takeGenerations missing).bind (fun generations _ htaken => ?_) fun _ _ htaken => ?_
    · obtain ⟨_, heq, hlength⟩ := htaken
      cases heq
      refine store_bind trivial (fun found hanswer => ?_) fun error herror => ?_
      · obtain ⟨_, heq, hfound⟩ := hanswer
        cases heq
        have hfirsts : (missing.zip generations).map Prod.fst = missing :=
          List.map_fst_zip hlength.ge
        have hpairs : ∀ pair ∈ missing.zip generations,
            found.reverse.find? (·.product == pair.1) = recorded pair.1 :=
          fun pair hpair => hfound pair.1 (List.of_mem_zip hpair).1
        have hread := rememberAll hpairs
        rw [← Function.comp_def (fun product => (product, recorded product)), ← List.map_map,
          hfirsts] at hread
        exact hread
      · obtain ⟨_, heq, _⟩ := herror
        cases heq
    · obtain ⟨_, heq, _⟩ := htaken
      cases heq

theorem get (product : String) : ∃ outcome, Reads recorded (Service.get product) outcome := by
  refine obey_bind fun product _ => ?_
  cases hrecorded : recorded product with
  | some record =>
    refine ⟨.ok record, (lookup product).bind ?_⟩
    rw [hrecorded]
    exact .pure rfl
  | none =>
    refine ⟨.error (.stock (.productMissing product)), (lookup product).bind ?_⟩
    rw [hrecorded]
    exact .refuse rfl

/-- A check whose line is in order answers from the record of its product. -/
theorem check_of_ok {line : CheckLine} {asked : ProductId × Quantity}
    (hline : Service.checkLine line = .ok asked) :
    Reads recorded (Service.check line.product line.quantity)
      (.ok (Availability.ofRecord? asked.1 asked.2 (recorded asked.1))) := by
  obtain ⟨product, hproduct, hrest⟩ := bind_eq_ok_iff.1 hline
  obtain ⟨requested, hrequested, hasked⟩ := bind_eq_ok_iff.1 hrest
  cases hasked
  rw [Service.check, hproduct, hrequested]
  exact obey_ok_bind (obey_ok_bind ((lookup product).bind (.pure rfl)))

theorem check_of_error {line : CheckLine} {violation : Violation}
    (hline : Service.checkLine line = .error violation) :
    Reads recorded (Service.check line.product line.quantity)
      (.error (.stock (.violation violation))) := by
  rw [Service.checkLine] at hline
  rw [Service.check]
  cases hproduct : ProductId.ofText line.product with
  | error cause =>
    rw [hproduct] at hline
    cases hline
    exact obey_error_bind violation _
  | ok product =>
    rw [hproduct, ok_bind] at hline
    cases hrequested : Service.requestedQuantity line.quantity with
    | error cause =>
      rw [hrequested] at hline
      cases hline
      exact obey_ok_bind (obey_error_bind violation _)
    | ok requested =>
      rw [hrequested] at hline
      cases hline

theorem check (product : String) (quantity : Option Int) :
    ∃ outcome, Reads recorded (Service.check product quantity) outcome := by
  cases hline : Service.checkLine ⟨product, quantity⟩ with
  | ok asked =>
    have hreads := @check_of_ok recorded _ asked hline
    exact ⟨_, hreads⟩
  | error violation =>
    have hreads := @check_of_error recorded _ violation hline
    exact ⟨_, hreads⟩

/-- A bulk check whose lines are in order answers each of them from the record of its product. -/
theorem bulkCheck_of_ok {lines : List CheckLine} {checked : List (ProductId × Quantity)}
    (hchecked : lines.mapM Service.checkLine = .ok checked) :
    Reads recorded (Service.bulkCheck lines) (.ok (checked.map fun line =>
      Availability.ofRecord? line.1 line.2 (recorded line.1))) := by
  rw [Service.bulkCheck, hchecked]
  apply obey_ok_bind
  refine (consultCache _).bind (fun _ _ hconsulted => ?_) fun _ _ hconsulted => ?_
  · obtain ⟨known, missing, heq, hsplits⟩ := hconsulted
    cases heq
    refine (lookupMissing missing).bind (fun found _ hfound => ?_) fun _ _ hfound => ?_
    · cases hfound
      refine .pure (congrArg Except.ok (List.map_congr_left fun line hline => ?_))
      have hmem : line.1 ∈ Service.distinct (checked.map Prod.fst) :=
        Service.mem_distinct (List.mem_map.2 ⟨line, hline, rfl⟩)
      exact congrArg (fun found => Availability.ofRecord? line.1 line.2 (found.getD none))
        (hsplits.lookup_append hmem)
    · cases hfound
  · obtain ⟨_, _, heq, _⟩ := hconsulted
    cases heq

theorem bulkCheck_of_error {lines : List CheckLine} {violation : Violation}
    (hlines : lines.mapM Service.checkLine = .error violation) :
    Reads recorded (Service.bulkCheck lines) (.error (.stock (.violation violation))) := by
  rw [Service.bulkCheck, hlines]
  exact obey_error_bind violation _

theorem bulkCheck (lines : List CheckLine) :
    ∃ outcome, Reads recorded (Service.bulkCheck lines) outcome := by
  cases hlines : lines.mapM Service.checkLine with
  | ok checked => exact ⟨_, bulkCheck_of_ok hlines⟩
  | error violation => exact ⟨_, bulkCheck_of_error hlines⟩

end Reads

end ServiceCall

theorem Operation.reads (settings : ServiceSettings) {operation : Operation}
    (hreads : operation.ReadsStock) (recorded : ProductId → Option StockRecord) :
    ∃ outcome, (operation.call settings).Reads recorded outcome := by
  cases operation with
  | get product => exact ServiceCall.Reads.get product
  | check product quantity => exact ServiceCall.Reads.check product quantity
  | bulkCheck lines => exact ServiceCall.Reads.bulkCheck lines
  | _ => cases hreads

/-- A batched lookup finds for each of its products what a lookup of this product finds. -/
theorem MemoryStore.find?_findMany {store : MemoryStore} (hkeyed : store.Keyed)
    {products : List ProductId} {product : ProductId} (hmem : product ∈ products) :
    (store.findMany products).reverse.find? (·.product == product) =
      store.inventory.find? product := by
  cases hfound : store.inventory.find? product with
  | none =>
    refine List.find?_eq_none.2 fun record hrecord hsame => ?_
    obtain ⟨other, _, hother⟩ := List.mem_filterMap.1 (List.mem_reverse.1 hrecord)
    rw [← beq_iff_eq.1 hsame, hkeyed.records other record hother, hother] at hfound
    cases hfound
  | some record =>
    have hrecord : record ∈ (store.findMany products).reverse :=
      List.mem_reverse.2 (List.mem_filterMap.2 ⟨product, hmem, hfound⟩)
    have hsame : record.product = product := hkeyed.records product record hfound
    cases hsought : (store.findMany products).reverse.find? (·.product == product) with
    | none => exact absurd (beq_iff_eq.2 hsame) (List.find?_eq_none.1 hsought record hrecord)
    | some first =>
      obtain ⟨other, _, hother⟩ := List.mem_filterMap.1 (List.mem_reverse.1
        (List.mem_of_find?_eq_some hsought))
      have hproduct : first.product = product := by simpa using List.find?_some hsought
      rw [← hproduct, hkeyed.records other first hother, hother] at hfound
      exact hfound

namespace MemoryService

/-- The service with its cache disabled. -/
def uncached (service : MemoryService) : MemoryService :=
  { service with around := { service.around with cache := .create none } }

/-- What a read returns from a service that remembers nothing. -/
theorem perform_uncached {service : MemoryService} (hkeyed : service.store.Keyed) {α : Type}
    {call : ServiceCall α} {outcome : Except CallFailure α}
    (hreads : call.Reads service.store.inventory.find? outcome) :
    (service.uncached.perform call).1 = outcome := by
  have hkeeps (stage : Unit) (state : MemoryService) (request : ServiceRequest)
      (hstate : state.store = service.store ∧ state.around.cache.isEnabled = false)
      (hallowed : (reading service.store.inventory.find?).allows stage request) :
      (reading service.store.inventory.find?).expects stage request (answer request state).1 ∧
        (answer request state).2.store = service.store ∧
        (answer request state).2.around.cache.isEnabled = false := by
    obtain ⟨hstore, hdisabled⟩ := hstate
    cases request with
    | store call =>
      refine ⟨?_, ?_, hdisabled⟩
      · rw [← hstore]
        cases call with
        | find product => rfl
        | findMany products =>
          rw [← hstore] at hkeyed
          exact ⟨_, rfl, fun product hmem => MemoryStore.find?_findMany hkeyed hmem⟩
        | _ => cases hallowed
      · cases call with
        | find _ | findMany _ => exact hstore
        | _ => cases hallowed
    | aside request =>
      cases request with
      | cached product =>
        have hmissed : state.around.cache.get product state.around.ticks =
            (none, state.around.cache) := StockCache.get_of_disabled hdisabled
        refine ⟨fun record hrecord => ?_, hstore, (StockCache.isEnabled_get ..).trans hdisabled⟩
        rw [answer, Surroundings.answer, hmissed] at hrecord
        cases hrecord
      | generation product => exact ⟨trivial, hstore, hdisabled⟩
      | remember product record generation =>
        exact ⟨trivial, hstore, (StockCache.isEnabled_put ..).trans hdisabled⟩
      | _ => cases hallowed
  have hstart : service.uncached.store = service.store ∧
      service.uncached.around.cache.isEnabled = false := ⟨rfl, rfl⟩
  obtain ⟨_, hlast, _⟩ := hreads.run.run hkeeps hstart
  exact hlast

end MemoryService

end Stockroom
