import Stockroom.StockRecord

/-!
# Pages of a listing

A listing is read page by page; pages are counted from one.
-/

namespace Stockroom

structure PageRequest where
  page : Nat
  limit : Nat
deriving DecidableEq, Repr

/-- How many records come before the page. -/
def PageRequest.offset (request : PageRequest) : Nat :=
  (request.page - 1) * request.limit

/-- The records of one page, and how many the whole listing has. -/
structure Page where
  items : List StockRecord
  total : Nat
  page : Nat
  limit : Nat

namespace Page

/-- The page that a request asks for of a whole listing. -/
def ofListing (listing : List StockRecord) (request : PageRequest) : Page where
  items := (listing.drop request.offset).take request.limit
  total := listing.length
  page := request.page
  limit := request.limit

end Page

end Stockroom
