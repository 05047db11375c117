import Stockroom.Json.Edit
import Stockroom.Text.Integer
import Stockroom.Wire.Command

/-!
# Labels

Ids drawn at random are shown by labels that count what the store accepted:
`@i1` for the first record, `@r1` for the first reservation.  A drawn id that
the store did not accept is shown as `@new`.  So is, in a statement, the unusual
spelling of an id that can have been drawn and that no step names.
-/

namespace Stockroom.Rehearsal

/-- The ids of the records and the reservations that the store accepted, in that order, and
those that the steps name in their usual spelling. -/
structure KnownIds where
  records : List Uuid
  reservations : List Uuid
  named : List Uuid

namespace KnownIds

def none : KnownIds := ⟨[], [], []⟩

/-- Counts what a call brought into the store. -/
def count (known : KnownIds) : StoreCall → KnownIds
  | .create record => { known with records := known.records ++ [record.id] }
  | .reserve reservation => { known with reservations := known.reservations ++ [reservation.id] }
  | _ => known

/-- Adds the id that a text is, if it is one. -/
def addNamed (named : List Uuid) (text : String) : List Uuid :=
  match Uuid.ofText text with
  | .ok id => if id.text = text ∧ id ∉ named then id :: named else named
  | .error _ => named

/-- Takes note of the ids that a step names. -/
def note (known : KnownIds) (step : Json) : KnownIds :=
  { known with named := step.strings.foldl addNamed known.named }

def numbered (mark : String) (ids : List Uuid) : List (String × String) :=
  ids.zipIdx.map (fun numberedId => (numberedId.1.text, mark ++ toString (numberedId.2 + 1)))

/-- The label of an id that the store did not accept. -/
def newLabel : String := "@new"

/-- Each id's text with the label that is shown in its place; the ids were drawn so far. -/
def labels (known : KnownIds) (drawn : List Uuid) : List (String × String) :=
  let accepted := known.records ++ known.reservations
  numbered "@i" known.records ++ numbered "@r" known.reservations ++
    (drawn.filter (· ∉ accepted)).map (fun id => (id.text, newLabel))

/-- The id that a text stands for if it is the label of a reservation.  A label that is not
given yet stands for the id of its number. -/
def reservationOf? (known : KnownIds) (text : String) : Option Uuid :=
  match text.toList with
  | '@' :: 'r' :: digits => (Text.naturalOf? digits).map (fun number =>
      if number = 0 then Uuid.ofNat 0
      else known.reservations[number - 1]?.getD (Uuid.ofNat number))
  | _ => .none

/-- The value with ids in the place of labels, except in the operations inside of it. -/
def resolve (known : KnownIds) (value : Json) : Json :=
  value.mapStrings (fun text => ((known.reservationOf? text).map Uuid.text).getD text)
    (· == "ops")

end KnownIds

/-- The text with labels in the place of ids.  What is shorter than an id holds none. -/
def label (labels : List (String × String)) (text : String) : String :=
  if text.utf8ByteSize < Uuid.groupedSize then text
  else labels.foldl (fun shown entry => shown.replace entry.1 entry.2) text

def labelJson (labels : List (String × String)) (value : Json) : Json :=
  value.mapStrings (label labels) (fun _ => false)

def hidden : Json := .string "*"

/-- A reply without what differs from run to run. -/
def maskReply (reply : Json) : Json :=
  reply.withMembers [("id", hidden), ("created_at", hidden)]

def isReply (result : Json) : Bool :=
  ["id", "command_id", "saga_id", "status", "created_at"].all result.hasMember

/-- A row with its recorded result masked if it is a reply. -/
def maskRow (row : Json) : Json :=
  match row.member? "result" with
  | some result =>
    row.withMembers [("result", if isReply result then maskReply result else result)]
  | .none => row

/-- Whether an id can have been drawn at random.  Ids that were chosen by hand have another
version or begin with three zeros. -/
def canBeDrawn (id : Uuid) : Bool :=
  id.version = 4 ∧ id.bits.extractLsb' 116 12 ≠ 0

/-- The text, unless it is an unusual spelling of an unknown id that can have been drawn. -/
def hideSpelled (known : KnownIds) (text : String) : String :=
  match Uuid.ofText text with
  | .ok id =>
    if canBeDrawn id ∧ id.text ≠ text ∧ id ∉ known.named then KnownIds.newLabel else text
  | .error _ => text

/-- A row that was sent, with spelled ids hidden in a recorded result that is no reply. -/
def maskSentRow (known : KnownIds) (row : Json) : Json :=
  match row.member? "result" with
  | some result =>
    row.withMembers [("result",
      if isReply result then maskReply result
      else result.mapStrings (hideSpelled known) (fun _ => false))]
  | .none => row

/-- A statement's description with spelled ids hidden and recorded results masked. -/
def maskStatement (known : KnownIds) (description : Json) : Json :=
  let shown := description.mapStrings (hideSpelled known) (· == "result")
  match shown.member? "rows" with
  | some (.array rows) => shown.withMembers [("rows", .array (rows.map (maskSentRow known)))]
  | _ => shown

end Stockroom.Rehearsal
