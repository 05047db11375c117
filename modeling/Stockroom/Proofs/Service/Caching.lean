import Stockroom.Proofs.Service.Operation
import Stockroom.Proofs.Service.Request
import Stockroom.Proofs.Store.Touched

/-!
# How the service uses its cache

The service remembers only what it has read from the store after taking the
generation, under that generation.  And before an operation ends, it forgets
every product that the operation may have changed.
-/

namespace Stockroom

theorem Service.nodup_distinct (products : List ProductId) : (distinct products).Nodup := by
  induction products with
  | nil => exact List.nodup_nil
  | cons product rest ih =>
    have habsent : product ∉ (distinct rest).filter (· ≠ product) := by
      simp [List.mem_filter]
    exact List.nodup_cons.2 ⟨habsent, ih.filter _⟩

/-- The generations that an operation has taken, what it has read since then and since it last asked
for a change, and the products that it may have changed and has not forgotten yet. -/
structure CacheStage where
  generations : ProductId → Option UInt64
  seen : ProductId → Option (Option StockRecord)
  owed : List ProductId

namespace CacheStage

def start : CacheStage := ⟨fun _ => none, fun _ => none, []⟩

def protocol : Protocol ServiceRequest ServiceRequest.Answer CacheStage where
  allows stage request :=
    match request with
    | .aside (.remember product record generation) =>
      stage.generations product = some generation ∧ stage.seen product = some record
    | _ => True
  expects _ _ _ := True
  next stage request answer :=
    match request, answer with
    | .aside (.generation product), generation =>
      { stage with
        generations := Function.update stage.generations product (some generation)
        seen := Function.update stage.seen product none }
    | .aside (.forget product), _ => { stage with owed := stage.owed.filter (· ≠ product) }
    | .aside _, _ => stage
    | .store (.find product), .ok record =>
      { stage with seen := Function.update stage.seen product (some record) }
    | .store (.findMany products), .ok found =>
      { stage with seen := fun product =>
          if product ∈ products then some (found.reverse.find? (·.product == product))
          else stage.seen product }
    | .store call, answer =>
      { stage with
        seen := fun _ => none
        owed := stage.owed ++ call.touched answer }

end CacheStage

namespace ServiceCall

/-- Such a call keeps to the protocol of the cache and ends with nothing left to forget. -/
def Repays {α : Type} (call : ServiceCall α) (stage : CacheStage) : Prop :=
  Program.Conforms CacheStage.protocol (fun _ last => last.owed = []) call stage

namespace Repays

open Program (Conforms)
open Program.Conforms

variable {stage : CacheStage}

theorem lookup (howed : stage.owed = []) (product : ProductId) :
    Repays (Service.lookup product) stage := by
  refine aside_bind trivial fun cached _ => ?_
  cases cached with
  | some record => exact .pure howed
  | none =>
    refine aside_bind trivial fun generation _ => ?_
    refine store_bind trivial (fun record _ => ?_) fun _ _ => ?_
    · exact aside_bind ⟨Function.update_self .., Function.update_self ..⟩ fun _ _ => .pure howed
    · exact List.append_eq_nil_iff.2 ⟨howed, rfl⟩

theorem forgetLines {lines : List ReservationLine}
    (hcovered : ∀ product ∈ stage.owed, product ∈ ReservationLine.products lines) :
    Repays (Service.forgetLines lines) stage := by
  induction lines generalizing stage with
  | nil => exact .pure (List.eq_nil_iff_forall_not_mem.2 fun product hmem =>
      List.not_mem_nil (hcovered product hmem))
  | cons line rest ih =>
    refine aside_bind trivial fun _ _ => ih fun product hmem => ?_
    obtain ⟨howed, hne⟩ := List.mem_filter.1 hmem
    exact (List.mem_cons.1 (hcovered product howed)).resolve_left (of_decide_eq_true hne)

theorem resolve (howed : stage.owed = []) (id : Uuid) (resolution : Resolution) (now : Instant) :
    Repays (Service.resolve id resolution now) stage := by
  refine store_bind trivial (fun outcome _ => ?_) fun _ _ =>
    List.append_eq_nil_iff.2 ⟨howed, rfl⟩
  have hnext : (CacheStage.protocol.next stage (.store (.resolve id resolution now))
      (.ok outcome)).owed = if outcome.wasApplied then outcome.reservation.products else [] := by
    change stage.owed ++ _ = _
    rw [howed]
    rfl
  cases happlied : outcome.wasApplied with
  | true =>
    rw [if_pos rfl]
    refine (forgetLines fun product hmem => ?_).bind (fun _ _ hpaid => .pure hpaid)
      fun _ _ hpaid => hpaid
    rwa [hnext, happlied, if_pos rfl] at hmem
  | false =>
    refine .pure ?_
    rw [hnext, happlied]
    rfl

/-- Looking products up in the cache leaves the distinct ones that it does not know. -/
theorem consultCache (howed : stage.owed = []) (products : List ProductId) :
    Conforms CacheStage.protocol (fun outcome last => last.owed = [] ∧
        ∀ known missing, outcome = .ok (known, missing) → missing.Sublist products)
      (Service.consultCache products) stage := by
  induction products generalizing stage with
  | nil => exact .pure ⟨howed, fun known missing heq => by cases heq; exact List.Sublist.refl _⟩
  | cons product rest ih =>
    refine aside_bind trivial fun cached _ => ?_
    refine (ih howed).bind (fun ⟨known, missing⟩ last hrest => .pure ⟨hrest.1, ?_⟩)
      fun _ _ hrest => ⟨hrest.1, nofun⟩
    have hsublist := hrest.2 known missing rfl
    intro allKnown allMissing heq
    cases cached with
    | some record =>
      cases heq
      exact hsublist.cons product
    | none =>
      cases heq
      exact hsublist.cons_cons product

theorem takeGenerations (howed : stage.owed = []) {products : List ProductId}
    (hdistinct : products.Nodup) :
    Conforms CacheStage.protocol (fun outcome last => last.owed = [] ∧
        (∀ product ∉ products, last.generations product = stage.generations product) ∧
        ∀ generations, outcome = .ok generations → ∀ pair ∈ products.zip generations,
          last.generations pair.1 = some pair.2)
      (Service.takeGenerations products) stage := by
  induction products generalizing stage with
  | nil => exact .pure ⟨howed, fun _ _ => rfl, fun _ _ _ hmem => (List.not_mem_nil hmem).elim⟩
  | cons product rest ih =>
    obtain ⟨hfirst, hrest⟩ := List.nodup_cons.1 hdistinct
    refine aside_bind trivial fun generation _ => ?_
    have hkept {last : CacheStage} (hsame : ∀ other ∉ rest, last.generations other =
        Function.update stage.generations product (some generation) other) :
        ∀ other ∉ product :: rest, last.generations other = stage.generations other := by
      intro other hother
      obtain ⟨hne, habsent⟩ := not_or.1 (List.mem_cons.not.1 hother)
      rw [hsame other habsent, Function.update_of_ne hne]
    refine (ih (by exact howed) hrest).bind (fun generations last htaken => .pure ?_)
      fun _ _ htaken => ⟨htaken.1, hkept htaken.2.1, nofun⟩
    refine ⟨htaken.1, hkept htaken.2.1, fun all heq pair hpair => ?_⟩
    cases heq
    rcases List.mem_cons.1 hpair with rfl | hpair
    · rw [htaken.2.1 product hfirst]
      exact Function.update_self ..
    · exact htaken.2.2 generations rfl pair hpair

theorem rememberAll (howed : stage.owed = []) {found : List StockRecord}
    {pairs : List (ProductId × UInt64)}
    (htaken : ∀ pair ∈ pairs, stage.generations pair.1 = some pair.2 ∧
      stage.seen pair.1 = some (found.reverse.find? (·.product == pair.1))) :
    Repays (Service.rememberAll found pairs) stage := by
  induction pairs generalizing stage with
  | nil => exact .pure howed
  | cons pair rest ih =>
    obtain ⟨hfirst, hrest⟩ := List.forall_mem_cons.1 htaken
    exact aside_bind hfirst fun _ _ => (ih howed hrest).bind (fun _ _ hpaid => .pure hpaid)
      fun _ _ hpaid => hpaid

theorem lookupMissing (howed : stage.owed = []) {missing : List ProductId}
    (hdistinct : missing.Nodup) : Repays (Service.lookupMissing missing) stage := by
  rw [Service.lookupMissing]
  split
  · exact .pure howed
  · refine (takeGenerations howed hdistinct).bind (fun generations last htaken => ?_)
      fun _ _ htaken => htaken.1
    refine store_bind trivial (fun found _ => ?_) fun _ _ =>
      List.append_eq_nil_iff.2 ⟨htaken.1, rfl⟩
    refine rememberAll (by exact htaken.1) fun pair hpair =>
      ⟨htaken.2.2 generations rfl pair hpair, ?_⟩
    exact if_pos (List.of_mem_zip hpair).1

/-- What was owed for one product is repaid by forgetting it. -/
theorem filter_owed (howed : stage.owed = []) (product : ProductId) :
    (stage.owed ++ [product]).filter (· ≠ product) = [] := by
  rw [howed, List.nil_append, List.filter_cons_of_neg (by simp), List.filter_nil]

theorem append_owed (howed : stage.owed = []) : stage.owed ++ [] = [] := by
  rw [howed, List.append_nil]

theorem create (howed : stage.owed = []) (product : String) (initial threshold : Option Int) :
    Repays (Service.create product initial threshold) stage := by
  refine obey_bind (fun product _ => ?_) fun _ => howed
  refine obey_bind (fun initial _ => ?_) fun _ => howed
  refine obey_bind (fun threshold _ => ?_) fun _ => howed
  refine aside_bind trivial fun id _ => ?_
  refine aside_bind trivial fun now _ => ?_
  refine store_bind trivial (fun created _ => ?_) fun _ _ => append_owed howed
  exact aside_bind trivial fun _ _ => .pure (filter_owed howed created.product)

theorem get (howed : stage.owed = []) (product : String) : Repays (Service.get product) stage := by
  refine obey_bind (fun product _ => ?_) fun _ => howed
  refine (lookup howed product).bind (fun found _ hpaid => ?_) fun _ _ hpaid => hpaid
  cases found with
  | some record => exact .pure hpaid
  | none => exact .refuse hpaid

theorem check (howed : stage.owed = []) (product : String) (quantity : Option Int) :
    Repays (Service.check product quantity) stage := by
  refine obey_bind (fun product _ => ?_) fun _ => howed
  refine obey_bind (fun requested _ => ?_) fun _ => howed
  exact (lookup howed product).bind (fun _ _ hpaid => .pure hpaid) fun _ _ hpaid => hpaid

theorem bulkCheck (howed : stage.owed = []) (lines : List CheckLine) :
    Repays (Service.bulkCheck lines) stage := by
  refine obey_bind (fun lines _ => ?_) fun _ => howed
  refine (consultCache howed _).bind (fun ⟨known, missing⟩ last hconsulted => ?_)
    fun _ _ hconsulted => hconsulted.1
  have hdistinct := (hconsulted.2 known missing rfl).nodup (Service.nodup_distinct _)
  exact (lookupMissing hconsulted.1 hdistinct).bind (fun _ _ hpaid => .pure hpaid)
    fun _ _ hpaid => hpaid

theorem adjust (howed : stage.owed = []) (product kind : String) (quantity : Int) :
    Repays (Service.adjust product kind quantity) stage := by
  refine obey_bind (fun product _ => ?_) fun _ => howed
  refine obey_bind (fun adjustment _ => ?_) fun _ => howed
  refine aside_bind trivial fun now _ => ?_
  refine store_bind trivial (fun updated _ => ?_) fun _ _ => append_owed howed
  exact aside_bind trivial fun _ _ => .pure (filter_owed howed product)

theorem setThreshold (howed : stage.owed = []) (product : String) (threshold : Int) :
    Repays (Service.setThreshold product threshold) stage := by
  refine obey_bind (fun product _ => ?_) fun _ => howed
  refine obey_bind (fun threshold _ => ?_) fun _ => howed
  refine aside_bind trivial fun now _ => ?_
  refine store_bind trivial (fun updated _ => ?_) fun _ _ => append_owed howed
  exact aside_bind trivial fun _ _ => .pure (filter_owed howed product)

theorem delete (howed : stage.owed = []) (product : String) :
    Repays (Service.delete product) stage := by
  refine obey_bind (fun product _ => ?_) fun _ => howed
  refine store_bind trivial (fun _ _ => ?_) fun _ _ => append_owed howed
  exact ⟨trivial, fun _ _ => filter_owed howed product⟩

theorem lowStock (howed : stage.owed = []) (threshold : Option Int) (request : PageRequest) :
    Repays (Service.lowStock threshold request) stage := by
  rw [Service.lowStock]
  split
  · exact .refuse howed
  · split
    · exact .refuse howed
    · refine obey_bind (fun threshold _ => ?_) fun _ => howed
      exact ⟨trivial, fun answer _ => append_owed howed⟩

theorem reserve (howed : stage.owed = []) (settings : ServiceSettings) (orderId : String)
    (lines : List RequestedLine) : Repays (Service.reserve settings orderId lines) stage := by
  refine obey_bind (fun checked _ => ?_) fun _ => howed
  refine aside_bind trivial fun id _ => ?_
  refine aside_bind trivial fun now _ => ?_
  cases hmake : Reservation.make id orderId checked settings.holdFor now with
  | error obstacle =>
    cases obstacle with
    | violation violation => exact .refuse howed
    | deadlineOutOfRange => exact .throw howed
  | ok reservation =>
    refine store_bind trivial (fun held _ => ?_) fun _ _ => append_owed howed
    refine (forgetLines fun product hmem => ?_).bind (fun _ _ hpaid => .pure hpaid)
      fun _ _ hpaid => hpaid
    change product ∈ stage.owed ++ held.products at hmem
    rwa [howed] at hmem

theorem getReservation (howed : stage.owed = []) (id : Uuid) :
    Repays (Service.getReservation id) stage := by
  refine store_bind trivial (fun found _ => ?_) fun _ _ => append_owed howed
  cases found with
  | some reservation => exact .pure (append_owed howed)
  | none => exact .refuse (append_owed howed)

theorem expireAll (howed : stage.owed = []) (now : Instant) (report : SweepReport)
    (reservations : List Reservation) :
    (Sweep.expireAll now report reservations).Follows CacheStage.protocol
      (fun _ last => last.owed = []) stage := by
  induction reservations generalizing report stage with
  | nil => exact howed
  | cons reservation rest ih =>
    refine (Program.follows_bind _ _ _).2 ?_
    exact (resolve howed reservation.id .expire now).run.mono fun _ _ hpaid => ih hpaid _

theorem sweep (howed : stage.owed = []) (now : Instant) (batch : Nat) :
    Repays (Sweep.once now batch) stage := by
  refine store_bind trivial (fun overdue _ => ?_) fun _ _ => append_owed howed
  refine ⟨(Program.follows_bind _ _ _).2 ?_⟩
  exact (expireAll (append_owed howed) now _ overdue).mono fun _ _ hpaid => hpaid

end Repays

end ServiceCall

open ServiceCall in
theorem Operation.repays (settings : ServiceSettings) (operation : Operation) :
    (operation.call settings).Repays .start := by
  have howed : CacheStage.start.owed = [] := rfl
  cases operation with
  | create product initial threshold => exact .create howed product initial threshold
  | get product => exact .get howed product
  | check product quantity => exact .check howed product quantity
  | bulkCheck lines => exact .bulkCheck howed lines
  | adjust product kind quantity => exact .adjust howed product kind quantity
  | setThreshold product threshold => exact .setThreshold howed product threshold
  | delete product => exact .delete howed product
  | lowStock threshold request => exact .lowStock howed threshold request
  | reserve orderId lines => exact .reserve howed settings orderId lines
  | confirm id => exact .aside_bind trivial fun now _ => Repays.resolve howed id .confirm now
  | release id => exact .aside_bind trivial fun now _ => Repays.resolve howed id .release now
  | expire id now => exact .resolve howed id .expire now
  | getReservation id => exact .getReservation howed id
  | overdue asOf limit => exact ⟨trivial, fun _ _ => Repays.append_owed howed⟩
  | sweep now batch => exact .sweep howed now batch

end Stockroom
