import Stockroom.Time.Instant

/-!
# Microseconds

A time column counts whole microseconds from the start of the year 2000.  What
an instant has beyond them is cut off, toward that start.
-/

namespace Stockroom.Instant

/-- The start of the year 2000. -/
def columnOrigin : Instant := ⟨946684800, 0, by decide⟩

/-- The whole microseconds from the origin to an instant. -/
def toMicroseconds (instant : Instant) : Int :=
  (instant.since columnOrigin).nanoseconds.tdiv 1000

def ofMicroseconds? (microseconds : Int) : Option Instant :=
  columnOrigin.add? ⟨microseconds * 1000⟩

/-- The instant that a time column gives back. -/
def inColumn (instant : Instant) : Instant :=
  (ofMicroseconds? instant.toMicroseconds).getD instant

end Stockroom.Instant
