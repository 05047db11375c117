/-!
# Sorting

Sorting by insertion.  Two values of which each may come before the other stay
in the order in which they were given.
-/

namespace Stockroom.Sorting

variable {α : Type}

/-- Inserts a value into a sorted list, as early as it may come. -/
def insert (before : α → α → Bool) (value : α) : List α → List α
  | [] => [value]
  | first :: rest =>
    if before value first then value :: first :: rest
    else first :: insert before value rest

def sort (before : α → α → Bool) : List α → List α
  | [] => []
  | first :: rest => insert before first (sort before rest)

end Stockroom.Sorting
