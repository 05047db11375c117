import Stockroom.Store.Call

/-!
# Planned interruptions

Interruptions wait in a queue for a call of the store.  One that is due runs
steps before or after the call, and may make the call fail.
-/

namespace Stockroom

/-- The name of the method that a call goes to. -/
def StoreCall.method : StoreCall → String
  | .create _ => "create_inventory"
  | .find _ => "find_inventory"
  | .findMany _ => "find_inventories"
  | .adjust _ _ _ => "adjust_inventory"
  | .setThreshold _ _ _ => "update_low_stock_threshold"
  | .delete _ => "delete_inventory"
  | .lowStock _ _ => "list_low_stock"
  | .reserve _ => "reserve"
  | .resolve _ _ _ => "resolve_reservation"
  | .findReservation _ => "find_reservation"
  | .overdue _ _ => "find_pending_expired"
  | .findProcessed _ => "find_processed_command"
  | .recordProcessed _ => "record_processed_command"

namespace Rehearsal

inductive Phase where
  | before
  | after
deriving DecidableEq, Repr

/-- Steps that are run around a method, and a failure that replaces its answer. -/
structure Hook (Step : Type) where
  method : String
  phase : Phase
  skip : Nat
  steps : List Step
  failure : Option StockError

/-- The first hook for a method and a phase, if it is due, and the hooks that are left. -/
def takeHook {Step : Type} (method : String) (phase : Phase) :
    List (Hook Step) → Option (Hook Step) × List (Hook Step)
  | [] => (none, [])
  | hook :: rest =>
    if hook.method = method ∧ hook.phase = phase then
      if hook.skip = 0 then (some hook, rest)
      else (none, { hook with skip := hook.skip - 1 } :: rest)
    else
      let (found, others) := takeHook method phase rest
      (found, hook :: others)

end Rehearsal

end Stockroom
