import Stockroom.Service

/-!
# Sweeping overdue reservations

One pass gives back the stock of reservations whose deadline has passed.  Each
is expired on its own; a failure is counted and the pass goes on.
-/

namespace Stockroom

structure SweepReport where
  examined : Nat
  expired : Nat
  alreadyResolved : Nat
  failed : Nat
deriving DecidableEq, Repr

namespace SweepReport

def empty : SweepReport := ⟨0, 0, 0, 0⟩

/-- Counts what became of one reservation. -/
def count (report : SweepReport) : Except CallFailure Outcome → SweepReport
  | .ok ⟨.applied, _⟩ => { report with expired := report.expired + 1 }
  | .ok ⟨.alreadyResolved, _⟩ => { report with alreadyResolved := report.alreadyResolved + 1 }
  | .error _ => { report with failed := report.failed + 1 }

end SweepReport

namespace Sweep

def expireAll (now : Instant) (report : SweepReport) :
    List Reservation → ServiceProgram SweepReport
  | [] => return report
  | reservation :: rest => do
    let outcome ← (Service.expire reservation.id now).run
    expireAll now (report.count outcome) rest

/-- Expires at most `batch` of the reservations that are overdue. -/
def once (now : Instant) (batch : Nat) : ServiceCall SweepReport := do
  let overdue ← Service.overdue now batch
  ExceptT.lift (expireAll now { SweepReport.empty with examined := overdue.length } overdue)

/-- A sweep at the present instant, as it is made at every tick: what fails is left to the
next one. -/
def tick (batch : Nat) : ServiceProgram Unit := do
  let _ ← (do once (← ServiceCall.aside .now) batch : ServiceCall SweepReport).run
  return

end Sweep

end Stockroom
