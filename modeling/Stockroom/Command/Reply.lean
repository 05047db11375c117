import Stockroom.Command

/-!
# Replies

The answer to a command.  A reply can be kept and sent again to a redelivered
command; only its address changes then.
-/

namespace Stockroom

inductive ReplyStatus where
  | success
  | failed
deriving DecidableEq, Repr

namespace ReplyStatus

def all : List ReplyStatus := [.success, .failed]

def word : ReplyStatus → String
  | .success => "Success"
  | .failed => "Failed"

end ReplyStatus

structure Reply where
  id : Uuid
  commandId : Uuid
  sagaId : Uuid
  status : ReplyStatus
  result : Option Json
  error : Option String
  errorKind : Option String
  createdAt : Instant

namespace Reply

/-- A stamp of a reply: its own id and the time at which it was made. -/
structure Stamp where
  id : Uuid
  createdAt : Instant

def success (stamp : Stamp) (commandId sagaId : Uuid) (result : Option Json) : Reply where
  id := stamp.id
  commandId := commandId
  sagaId := sagaId
  status := .success
  result := result
  error := none
  errorKind := none
  createdAt := stamp.createdAt

def failed (stamp : Stamp) (commandId sagaId : Uuid) (error : String) : Reply where
  id := stamp.id
  commandId := commandId
  sagaId := sagaId
  status := .failed
  result := none
  error := some error
  errorKind := none
  createdAt := stamp.createdAt

def withErrorKind (reply : Reply) (kind : String) : Reply :=
  { reply with errorKind := some kind }

/-- The same outcome, addressed to another delivery of the command. -/
def replayedFor (reply : Reply) (stamp : Stamp) (command : Command) : Reply :=
  { reply with
    id := stamp.id
    commandId := command.id
    sagaId := command.sagaId
    createdAt := stamp.createdAt }

end Reply

end Stockroom
