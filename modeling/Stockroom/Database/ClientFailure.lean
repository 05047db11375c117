import Stockroom.StockError

/-!
# Failures of the database client

What the client reports when a statement has no result, and what is made of
it.  A broken unique key means that something exists already; every other
failure is one of the storage.
-/

namespace Stockroom.Database

inductive ClientFailure where
  | recordNotFound
  | uniqueViolation (message : String)
  | rollbackRequested
  | alreadyInTransaction
  | notInTransaction
  | brokenTransaction
  | emptyCell
  | other (message : String)
deriving DecidableEq, Repr

namespace ClientFailure

def text : ClientFailure → String
  | recordNotFound => "Record not found"
  | uniqueViolation message | other message => message
  | rollbackRequested => "You have asked diesel to rollback the transaction"
  | alreadyInTransaction => "Cannot perform this operation while a transaction is open"
  | notInTransaction => "Cannot perform this operation outside of a transaction"
  | brokenTransaction => "The transaction manager is broken"
  | emptyCell => "Unexpected null for non-null column"

def toStockError : ClientFailure → StockError
  | recordNotFound => .rowMissing
  | uniqueViolation message => .duplicateRow message
  | failure => .database failure.text

end ClientFailure

/-- Why the pool had no connection to give. -/
inductive PoolFailure where
  | timedOut
  | connection (message : String)
  | query (failure : ClientFailure)
deriving DecidableEq, Repr

namespace PoolFailure

def text : PoolFailure → String
  | timedOut => "Timed out in bb8"
  | connection message => message
  | query failure => failure.text

def toStockError (failure : PoolFailure) : StockError :=
  .connectionPool failure.text

end PoolFailure

end Stockroom.Database
