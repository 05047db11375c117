import Mathlib.Algebra.Group.Nat.Defs
import Mathlib.Data.Set.Insert
import Mathlib.Logic.Relation
import Stockroom.Proofs.Service.Operation

/-!
# Calls that share a cache

Operations of one service that run concurrently, request by request and in any
order, while the clocks move.  What each call has changed and has not yet made
the cache forget is recorded beside them.
-/

namespace Stockroom

/-- Operations that run on one service, with what remains to be done of each of them. -/
structure CachedCalls {count : Nat} (operations : Fin count → Operation) where
  service : MemoryService
  program : (caller : Fin count) → ServiceProgram (Except CallFailure (operations caller).Value)
  /-- The products that a caller has changed in the store and has not made the cache forget. -/
  owed : Fin count → Set ProductId
  /-- How often a product has been forgotten. -/
  forgotten : ProductId → Nat
  /-- How often a product had been forgotten when a caller last took its generation. -/
  taken : Fin count → ProductId → Nat

namespace CachedCalls

variable {count : Nat} {operations : Fin count → Operation}

def start (settings : ServiceSettings) (operations : Fin count → Operation)
    (service : MemoryService) : CachedCalls operations where
  service := service
  program caller := ((operations caller).call settings).run
  owed _ := ∅
  forgotten _ := 0
  taken _ _ := 0

def cache (calls : CachedCalls operations) : StockCache :=
  calls.service.around.cache

/-- What the store has recorded of a product, if anything. -/
def recorded (calls : CachedCalls operations) (product : ProductId) : Option StockRecord :=
  calls.service.store.inventory.find? product

/-- The products whose records two stores do not agree about. -/
def changed (before after : MemoryStore) : Set ProductId :=
  {product | after.inventory.find? product ≠ before.inventory.find? product}

/-- What a caller owes after a request that has led to another store. -/
def owedAfter (request : ServiceRequest) (before after : MemoryStore) (owed : Set ProductId) :
    Set ProductId :=
  match request with
  | .store _ => owed ∪ changed before after
  | .aside (.forget product) => owed \ {product}
  | .aside _ => owed

def forgottenAfter (request : ServiceRequest) (forgotten : ProductId → Nat) : ProductId → Nat :=
  match request with
  | .aside (.forget product) => Function.update forgotten product (forgotten product + 1)
  | _ => forgotten

def takenAfter (request : ServiceRequest) (forgotten taken : ProductId → Nat) : ProductId → Nat :=
  match request with
  | .aside (.generation product) => Function.update taken product (forgotten product)
  | _ => taken

/-- Answers a request of a caller, who goes on with the answer. -/
def answered (calls : CachedCalls operations) (caller : Fin count) (request : ServiceRequest)
    (resume : request.Answer →
      ServiceProgram (Except CallFailure (operations caller).Value)) : CachedCalls operations :=
  let (answer, service) := MemoryService.answer request calls.service
  { service := service
    program := Function.update calls.program caller (resume answer)
    owed := Function.update calls.owed caller
      (owedAfter request calls.service.store service.store (calls.owed caller))
    forgotten := forgottenAfter request calls.forgotten
    taken := Function.update calls.taken caller
      (takenAfter request calls.forgotten (calls.taken caller)) }

/-- The next step of a caller; one who is done takes none. -/
def proceed (calls : CachedCalls operations) (caller : Fin count) : CachedCalls operations :=
  match calls.program caller with
  | .done _ => calls
  | .ask request resume => calls.answered caller request resume

def atReading (calls : CachedCalls operations) (reading : ClockReading) : CachedCalls operations :=
  { calls with service := calls.service.atReading reading }

/-- What a caller is about to make the cache remember was not forgotten so often since it took
the generation that generations repeat. -/
def Paced (calls : CachedCalls operations) (caller : Fin count) : Prop :=
  ∀ product record generation resume,
    calls.program caller = .ask (.aside (.remember product record generation)) resume →
      calls.forgotten product < calls.taken caller product + 2 ^ 64

/-- A caller has a request answered, or the clocks move. -/
inductive Step (calls : CachedCalls operations) : CachedCalls operations → Prop
  | answered (caller : Fin count) (hpaced : calls.Paced caller) : Step calls (calls.proceed caller)
  | moved (reading : ClockReading) : Step calls (calls.atReading reading)

/-- No caller is between a change of the store and forgetting what it has changed. -/
def Quiet (calls : CachedCalls operations) : Prop :=
  ∀ caller, calls.owed caller = ∅

/-- A step that leads to a quiet moment. -/
def QuietStep (calls next : CachedCalls operations) : Prop :=
  calls.Step next ∧ next.Quiet

/-- The calls after their callers have taken steps in some order. -/
def run (calls : CachedCalls operations) (schedule : List (Fin count)) : CachedCalls operations :=
  schedule.foldl proceed calls

theorem proceed_of_ne {calls : CachedCalls operations} {caller other : Fin count}
    (hne : other ≠ caller) :
    (calls.proceed caller).program other = calls.program other ∧
      (calls.proceed caller).owed other = calls.owed other := by
  rw [proceed]
  split
  · exact ⟨rfl, rfl⟩
  · exact ⟨Function.update_of_ne hne .., Function.update_of_ne hne ..⟩

/-- Who takes no step stays where it was. -/
theorem run_of_not_mem {calls : CachedCalls operations} {schedule : List (Fin count)}
    {other : Fin count} (hidle : other ∉ schedule) :
    (calls.run schedule).program other = calls.program other ∧
      (calls.run schedule).owed other = calls.owed other := by
  induction schedule generalizing calls with
  | nil => exact ⟨rfl, rfl⟩
  | cons caller rest ih =>
    obtain ⟨hne, hrest⟩ := not_or.1 (List.mem_cons.not.1 hidle)
    obtain ⟨hprogram, howed⟩ := @ih (calls.proceed caller) hrest
    obtain ⟨hfirst, hfirstOwed⟩ := @proceed_of_ne _ _ calls _ _ hne
    exact ⟨hprogram.trans hfirst, howed.trans hfirstOwed⟩

/-- A request makes a product forgotten once more, or leaves it. -/
theorem forgottenAfter_eq_or (request : ServiceRequest) (forgotten : ProductId → Nat)
    (product : ProductId) :
    forgottenAfter request forgotten product = forgotten product ∨
      forgottenAfter request forgotten product = forgotten product + 1 := by
  cases request with
  | store call => exact .inl rfl
  | aside request =>
    cases request with
    | forget sought =>
      rw [forgottenAfter, Function.update_apply]
      split
      · rename_i hsame
        exact .inr (by rw [hsame])
      · exact .inl rfl
    | _ => exact .inl rfl

theorem forgotten_proceed_le (calls : CachedCalls operations) (caller : Fin count)
    (product : ProductId) :
    (calls.proceed caller).forgotten product ≤ calls.forgotten product + 1 := by
  rw [proceed]
  split
  · exact Nat.le_succ _
  · rename_i request resume _
    change forgottenAfter request calls.forgotten product ≤ _
    rcases forgottenAfter_eq_or request calls.forgotten product with hsame | honce
    · exact hsame.le.trans (Nat.le_succ _)
    · exact honce.le

theorem forgotten_run_le (calls : CachedCalls operations) (schedule : List (Fin count))
    (product : ProductId) :
    (calls.run schedule).forgotten product ≤ calls.forgotten product + schedule.length := by
  induction schedule generalizing calls with
  | nil => exact le_refl _
  | cons caller rest ih =>
    have hrest := ih (calls.proceed caller)
    have hfirst := calls.forgotten_proceed_le caller product
    rw [List.length_cons]
    change ((calls.proceed caller).run rest).forgotten product ≤ _
    omega

/-- Runs that are not so long that generations repeat are paced throughout. -/
theorem reachable_run {calls : CachedCalls operations} {schedule : List (Fin count)}
    (hshort : ∀ product, calls.forgotten product + schedule.length ≤ 2 ^ 64) :
    Relation.ReflTransGen Step calls (calls.run schedule) := by
  induction schedule generalizing calls with
  | nil => exact .refl
  | cons caller rest ih =>
    have hpaced : calls.Paced caller := by
      intro product _ _ _ _
      have hbound := hshort product
      rw [List.length_cons] at hbound
      omega
    refine .head (.answered caller hpaced) (ih fun product => ?_)
    have hstep := calls.forgotten_proceed_le caller product
    have hbound := hshort product
    rw [List.length_cons] at hbound
    omega

end CachedCalls

end Stockroom
