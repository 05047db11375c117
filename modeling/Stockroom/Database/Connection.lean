import Stockroom.Database.Tables

/-!
# The connection

Statements run one after another on a single connection.  A transaction
remembers the tables it began with, and a rollback, a failed commit and the
loss of the connection bring them back.  After an error inside a transaction
nothing but its end is carried out.  What the outside does to a statement, a
refusal or a loss of the connection, is an argument.
-/

namespace Stockroom

/-- What happens to a statement besides what it asks for. -/
inductive Interference where
  | none
  | refusal (refusal : Database.Refusal)
  | lossBefore
  | lossAfter
deriving DecidableEq, Repr

namespace Database

/-- How a statement ended. -/
inductive Ending where
  | done
  | refused (refusal : Refusal)
  | lost
deriving DecidableEq, Repr

/-- A statement that was sent, and how it ended. -/
structure Sent where
  statement : Statement
  ending : Ending

/-- Why a statement has no result. -/
inductive Failure where
  | refused (refusal : Refusal)
  | lost
deriving DecidableEq, Repr

end Database

structure Database where
  tables : Database.Tables
  begun : Option Database.Tables
  aborted : Bool
  connected : Bool
  reachable : Bool
  sent : List Database.Sent

namespace Database

/-- An empty database that nothing is connected to. -/
def empty : Database := ⟨.empty, .none, false, false, true, []⟩

/-- The tables as they were before the open transaction, if one is open. -/
def restored (database : Database) : Database :=
  { database with
    tables := database.begun.getD database.tables
    begun := .none
    aborted := false }

/-- The connection is gone, and with it what was not committed. -/
def lose (database : Database) : Database :=
  { database.restored with connected := false }

def record (database : Database) (statement : Statement) (ending : Ending) : Database :=
  { database with sent := database.sent ++ [⟨statement, ending⟩] }

/-- Whether a text holds the character with code zero. -/
def holdsNulText (text : String) : Bool :=
  text.toList.contains '\x00'

mutual

/-- Whether a JSON value holds the character with code zero. -/
def holdsNul : Json → Bool
  | .string text => holdsNulText text
  | .array items => itemsHoldNul items
  | .object members => membersHoldNul members
  | .null | .bool _ | .number _ => false

def itemsHoldNul : List Json → Bool
  | [] => false
  | item :: rest => holdsNul item || itemsHoldNul rest

def membersHoldNul : List (String × Json) → Bool
  | [] => false
  | (name, value) :: rest => holdsNulText name || holdsNul value || membersHoldNul rest

end

/-- What is wrong with the values that a statement binds. -/
def bindingRefusal? (statement : Statement) : Option Refusal :=
  if statement.texts.any holdsNulText then some .nulInText
  else if statement.documents.any holdsNul then some .nulInDocument
  else .none

/-- A statement that failed: the end of a transaction takes the transaction with it, and the
connection is given up; any other statement leaves the transaction open but of no use. -/
def fail (database : Database) : Statement → Database
  | .commit | .rollback => database.lose
  | _ => { database with aborted := database.begun.isSome }

/-- What a statement within or without a transaction does to the tables. -/
def carryOutOn (database : Database) (statement : Statement) :
    Except Refusal (statement.Result × Database) := do
  if database.aborted then throw .aborted
  if let some refusal := bindingRefusal? statement then throw refusal
  let (result, tables) ← database.tables.execute statement
  return (result, { database with tables := tables })

/-- What a statement does when nothing interferes. -/
def carryOut (database : Database) : (statement : Statement) →
    Except Refusal (statement.Result × Database)
  | .begin => .ok ((), { database with begun := some database.tables, aborted := false })
  | .commit => .ok ((), if database.aborted then database.restored
      else { database with begun := .none })
  | .rollback => .ok ((), database.restored)
  | statement => database.carryOutOn statement

def refuse (database : Database) (statement : Statement) (refusal : Refusal) : Database :=
  (database.fail statement).record statement (.refused refusal)

/-- Runs one statement.  On a connection that is gone nothing is sent any more. -/
def run (database : Database) (interference : Interference) (statement : Statement) :
    Except Failure statement.Result × Database :=
  if !database.connected then (.error .lost, database)
  else match interference with
    | .refusal refusal => (.error (.refused refusal), database.refuse statement refusal)
    | .lossBefore => (.error .lost, database.lose.record statement .lost)
    | .lossAfter =>
      match database.carryOut statement with
      | .ok (_, after) => (.error .lost, after.lose.record statement .lost)
      | .error _ => (.error .lost, database.lose.record statement .lost)
    | .none =>
      match database.carryOut statement with
      | .ok (result, after) => (.ok result, after.record statement .done)
      | .error refusal => (.error (.refused refusal), database.refuse statement refusal)

end Database

end Stockroom
