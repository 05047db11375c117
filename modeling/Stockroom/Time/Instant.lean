import Stockroom.Time.Calendar

/-!
# Instants and durations

An instant is a second of the Gregorian calendar in universal time, with a
number of nanoseconds.  The last second of a minute may be a leap second; its
nanoseconds then run on from one thousand million.  The years that can be
named are -262143 to 262142, and a sum beyond them has no value.
-/

namespace Stockroom

/-- Whether seconds since 1970 and nanoseconds name an instant. -/
def Instant.Valid (seconds : Int) (nanos : Nat) : Prop :=
  -8334601228800 ≤ seconds ∧ seconds ≤ 8210266876799 ∧ nanos < 2000000000 ∧
    (1000000000 ≤ nanos → seconds % 60 = 59)

instance (seconds : Int) (nanos : Nat) : Decidable (Instant.Valid seconds nanos) :=
  inferInstanceAs (Decidable (_ ∧ _))

structure Instant where
  seconds : Int
  nanos : Nat
  valid : Instant.Valid seconds nanos
deriving DecidableEq

structure Duration where
  nanoseconds : Int
deriving DecidableEq, Repr

namespace Duration

/-- The greatest number of milliseconds that a duration has in either direction. -/
def millisLimit : Int := 9223372036854775807

/-- A number of milliseconds within the limit. -/
def ofMillis? (milliseconds : Int) : Option Duration :=
  if -millisLimit ≤ milliseconds ∧ milliseconds ≤ millisLimit then
    some ⟨milliseconds * 1000000⟩
  else none

/-- A number of seconds, as long as its milliseconds are within the limit. -/
def ofSeconds? (seconds : Int) : Option Duration :=
  ofMillis? (seconds * 1000)

end Duration

namespace Instant

@[ext]
theorem ext {left right : Instant} (hseconds : left.seconds = right.seconds)
    (hnanos : left.nanos = right.nanos) : left = right := by
  cases left; cases right; simp_all

instance : LT Instant :=
  ⟨fun left right =>
    left.seconds < right.seconds ∨ (left.seconds = right.seconds ∧ left.nanos < right.nanos)⟩

instance : LE Instant :=
  ⟨fun left right =>
    left.seconds < right.seconds ∨ (left.seconds = right.seconds ∧ left.nanos ≤ right.nanos)⟩

instance : DecidableLT Instant :=
  fun left right => inferInstanceAs (Decidable (left.seconds < right.seconds ∨
    (left.seconds = right.seconds ∧ left.nanos < right.nanos)))

instance : DecidableLE Instant :=
  fun left right => inferInstanceAs (Decidable (left.seconds < right.seconds ∨
    (left.seconds = right.seconds ∧ left.nanos ≤ right.nanos)))

theorem lt_def {left right : Instant} : left < right ↔
    left.seconds < right.seconds ∨ (left.seconds = right.seconds ∧ left.nanos < right.nanos) :=
  Iff.rfl

theorem le_def {left right : Instant} : left ≤ right ↔
    left.seconds < right.seconds ∨ (left.seconds = right.seconds ∧ left.nanos ≤ right.nanos) :=
  Iff.rfl

instance : Std.IsLinearOrder Instant where
  le_refl instant := .inr ⟨rfl, Nat.le_refl _⟩
  le_trans first second third hle hnext := by
    rw [le_def] at hle hnext ⊢
    omega
  le_antisymm left right hle hge := by
    rw [le_def] at hle hge
    exact ext (by omega) (by omega)
  le_total left right := by
    rw [le_def, le_def]
    omega

instance : Std.LawfulOrderLT Instant where
  lt_iff left right := by
    rw [lt_def, le_def, le_def]
    omega

def ofParts? (seconds : Int) (nanos : Nat) : Option Instant :=
  if hvalid : Valid seconds nanos then some ⟨seconds, nanos, hvalid⟩ else none

def epoch : Instant := ⟨0, 0, by decide⟩

instance : Inhabited Instant :=
  ⟨epoch⟩

/-- The instant `nanos` nanoseconds after a whole second, where `nanos` may be of any size. -/
def ofOffset? (seconds : Int) (nanos : Int) : Option Instant :=
  ofParts? (seconds + nanos / 1000000000) (nanos % 1000000000).toNat

/-- The instant a duration later.  Whoever leaves a leap second forwards leaves the second it
prolongs, and whoever leaves it backwards leaves the second that follows it. -/
def add? (instant : Instant) (duration : Duration) : Option Instant :=
  let wholeSeconds := duration.nanoseconds.tdiv 1000000000
  let fraction := duration.nanoseconds.tmod 1000000000
  let nanos : Int := instant.nanos
  if nanos < 1000000000 then
    ofOffset? (instant.seconds + wholeSeconds) (nanos + fraction)
  else if 0 < wholeSeconds ∨ (0 < fraction ∧ 2000000000 ≤ nanos + fraction) then
    ofOffset? (instant.seconds + wholeSeconds) (nanos - 1000000000 + fraction)
  else if wholeSeconds < 0 then
    ofOffset? (instant.seconds + 1 + wholeSeconds) (nanos - 1000000000 + fraction)
  else ofParts? instant.seconds (nanos + fraction).toNat

/-- The duration from one instant to another, a leap second counting as the second it runs into. -/
def since (later earlier : Instant) : Duration :=
  ⟨(later.seconds - earlier.seconds) * 1000000000 + ((later.nanos : Int) - earlier.nanos)⟩

/-- The instant is no leap second. -/
def IsPlain (instant : Instant) : Prop :=
  instant.nanos < 1000000000

end Instant

end Stockroom
