import Stockroom.Database.Description
import Stockroom.Json.Edit

/-!
# Planned faults

Faults wait in a queue for a statement that is seen to fit them.  The first one
that fits is used up, or has one statement less to let pass.
-/

namespace Stockroom.Rehearsal

/-- What is done to a statement whose description has the given members. -/
structure Fault where
  members : List (String × Json)
  skip : Nat
  interference : Interference

def Fault.fits (fault : Fault) (description : Json) : Bool :=
  fault.members.all (fun expected =>
    (description.memberOrNull expected.1).isWrittenAs expected.2)

/-- What happens to a statement, and the faults that are left. -/
def takeFault (description : Json) : List Fault → Interference × List Fault
  | [] => (.none, [])
  | fault :: rest =>
    if fault.fits description then
      if fault.skip = 0 then (fault.interference, rest)
      else (.none, { fault with skip := fault.skip - 1 } :: rest)
    else
      let (interference, others) := takeFault description rest
      (interference, fault :: others)

/-- A database with the faults that are planned for it. -/
structure FaultyDatabase where
  database : Database
  faults : List Fault

namespace FaultyDatabase

def answer (now : Instant) (request : DatabaseRequest) (faulty : FaultyDatabase) :
    request.Answer × FaultyDatabase :=
  let (interference, faults) := match request with
    | .send statement =>
      if faulty.database.connected then takeFault (.ofMembers statement.seen) faulty.faults
      else (.none, faulty.faults)
    | _ => (.none, faulty.faults)
  let (answer, database) :=
    Database.answer (fun _ => interference) now request faulty.database
  (answer, ⟨database, faults⟩)

end FaultyDatabase

end Stockroom.Rehearsal
