/-!
# Reservation status

A reservation is pending until it is resolved in one of three ways, and each
way leads to its own terminal status.
-/

namespace Stockroom

inductive Status where
  | pending
  | confirmed
  | released
  | expired
deriving DecidableEq, Repr

namespace Status

def all : List Status := [.pending, .confirmed, .released, .expired]

/-- The word that stands for a status in messages and in storage. -/
def word : Status → String
  | .pending => "PENDING"
  | .confirmed => "CONFIRMED"
  | .released => "RELEASED"
  | .expired => "EXPIRED"

/-- Reads a status from its exact word. -/
def ofWord? (text : String) : Option Status :=
  all.find? (fun status => status.word == text)

def isTerminal (status : Status) : Bool :=
  status != .pending

@[simp]
theorem ofWord?_word (status : Status) : ofWord? status.word = some status := by
  cases status <;> decide

end Status

/-- The three ways in which a pending reservation is resolved. -/
inductive Resolution where
  | confirm
  | release
  | expire
deriving DecidableEq, Repr

namespace Resolution

def all : List Resolution := [.confirm, .release, .expire]

/-- The verb that stands for a resolution in messages. -/
def word : Resolution → String
  | .confirm => "confirm"
  | .release => "release"
  | .expire => "expire"

def ofWord? (text : String) : Option Resolution :=
  all.find? (fun resolution => resolution.word == text)

/-- The status of a reservation that was resolved this way. -/
def status : Resolution → Status
  | .confirm => .confirmed
  | .release => .released
  | .expire => .expired

end Resolution

end Stockroom
