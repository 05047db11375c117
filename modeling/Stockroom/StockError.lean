import Stockroom.ProductId
import Stockroom.Quantity
import Stockroom.Uuid
import Stockroom.Violation

/-!
# Stock errors

The causes for which an operation on the stock fails.  Callers branch on the
kind of a cause; people read its message.
-/

namespace Stockroom

inductive FailureKind where
  | validation
  | notFound
  | insufficientStock
  | alreadyExists
  | conflict
  | storageFailure
deriving DecidableEq, Repr

namespace FailureKind

def all : List FailureKind :=
  [.validation, .notFound, .insufficientStock, .alreadyExists, .conflict, .storageFailure]

/-- The word that stands for a kind on the wire. -/
def word : FailureKind → String
  | .validation => "Validation"
  | .notFound => "NotFound"
  | .insufficientStock => "InsufficientStock"
  | .alreadyExists => "AlreadyExists"
  | .conflict => "Conflict"
  | .storageFailure => "StorageFailure"

end FailureKind

inductive StockError where
  | violation (violation : Violation)
  | pageTooSmall
  | limitOutOfRange
  | invalidPayload (command detail : String)
  | lineOutOfRange (position : Nat)
  | productMissing (product : ProductId)
  | reservationMissing (id : Uuid)
  | rowMissing
  | shortOf (product : ProductId)
  | productExists (product : ProductId)
  | commandProcessed (key : String)
  | duplicateRow (message : String)
  | stillReserved (product : ProductId) (reserved : Quantity)
  | corruptRow (detail : String)
  | database (message : String)
  | connectionPool (message : String)
  | reported (kind : FailureKind) (detail : String)
deriving DecidableEq, Repr

namespace StockError

/-- The most records that one page of a listing may have. -/
def maximumPageLimit : Nat := 100

/-- A violated rule is the caller's fault, a lack of stock, or a conflict with the state it met;
a status that no rule knows can only have come from storage. -/
def violationKind : Violation → FailureKind
  | .insufficientStock _ _ => .insufficientStock
  | .unknownStatus _ => .storageFailure
  | cause => if cause.blamesRequest then .validation else .conflict

def kind : StockError → FailureKind
  | violation cause => violationKind cause
  | pageTooSmall | limitOutOfRange | invalidPayload _ _ | lineOutOfRange _ => .validation
  | productMissing _ | reservationMissing _ | rowMissing => .notFound
  | shortOf _ => .insufficientStock
  | productExists _ | commandProcessed _ | duplicateRow _ => .alreadyExists
  | stillReserved _ _ => .conflict
  | corruptRow _ | database _ | connectionPool _ => .storageFailure
  | reported kind _ => kind

/-- What happened, in words that do not yet say that storage failed. -/
def detail : StockError → String
  | violation cause =>
    if violationKind cause = .storageFailure then "corrupt row: " ++ cause.message
    else cause.message
  | pageTooSmall => "page must be at least 1"
  | limitOutOfRange => "limit must be between 1 and " ++ toString maximumPageLimit
  | invalidPayload command detail => "Invalid " ++ command ++ " payload: " ++ detail
  | lineOutOfRange position => "reservation line " ++ toString position ++ " is out of range"
  | productMissing product => "Inventory not found for product " ++ product.text
  | reservationMissing id => "Reservation " ++ id.text ++ " not found"
  | rowMissing => "record not found"
  | shortOf product => "Insufficient stock for product " ++ product.text
  | productExists product => "Inventory already exists for product " ++ product.text
  | commandProcessed key => "Command " ++ key ++ " already processed"
  | duplicateRow message => message
  | stillReserved product reserved =>
    "Inventory for product " ++ product.text ++ " still has " ++ toString reserved.value ++
      " reserved"
  | corruptRow detail => "corrupt row: " ++ detail
  | database message => message
  | connectionPool message => "connection pool: " ++ message
  | reported _ detail => detail

def message (error : StockError) : String :=
  if error.kind = .storageFailure then "Storage failure: " ++ error.detail else error.detail

/-- Only failures of the storage are worth trying again. -/
def isRetryable (error : StockError) : Bool :=
  error.kind == .storageFailure

end StockError

end Stockroom
