import Stockroom.Proofs.Stock.Lines
import Stockroom.Time.Microsecond

/-!
# Whole microseconds

A time column gives back exactly the instants of whole microseconds that are
no leap seconds, and a hold of whole microseconds leads from one of them to
another.
-/

namespace Stockroom

namespace Instant

/-- A whole number of microseconds, and no leap second. -/
structure IsWhole (instant : Instant) : Prop where
  plain : instant.IsPlain
  whole : instant.nanos % 1000 = 0

theorem ofParts?_eq_some_iff {seconds : Int} {nanos : Nat} {instant : Instant} :
    ofParts? seconds nanos = some instant ↔
      instant.seconds = seconds ∧ instant.nanos = nanos := by
  rw [ofParts?]
  constructor
  · intro hparts
    split at hparts
    · cases hparts
      exact ⟨rfl, rfl⟩
    · cases hparts
  · rintro ⟨rfl, rfl⟩
    rw [dif_pos instant.valid]

/-- From an instant that is no leap second, a duration leads to the instant so many nanoseconds
later, if there is one. -/
theorem add?_eq_some_iff {instant later : Instant} {duration : Duration}
    (hplain : instant.IsPlain) : instant.add? duration = some later ↔
      later.IsPlain ∧ later.seconds * 1000000000 + later.nanos =
        instant.seconds * 1000000000 + instant.nanos + duration.nanoseconds := by
  have hbound : (instant.nanos : Int) < 1000000000 := by
    exact_mod_cast hplain
  have hoffset : instant.add? duration =
      ofOffset? (instant.seconds + duration.nanoseconds.tdiv 1000000000)
        (instant.nanos + duration.nanoseconds.tmod 1000000000) := by
    unfold add?
    exact if_pos hbound
  rw [hoffset, ofOffset?, ofParts?_eq_some_iff, IsPlain]
  have hparts := Int.tdiv_mul_add_tmod duration.nanoseconds 1000000000
  generalize duration.nanoseconds.tdiv 1000000000 = whole at hparts ⊢
  generalize duration.nanoseconds.tmod 1000000000 = fraction at hparts ⊢
  omega

theorem inColumn_of_isWhole {instant : Instant} (hwhole : instant.IsWhole) :
    instant.inColumn = instant := by
  have hexact : instant.toMicroseconds * 1000 = (instant.since columnOrigin).nanoseconds := by
    refine Int.tdiv_mul_cancel ?_
    have hmod := hwhole.whole
    change (1000 : Int) ∣ (instant.seconds - 946684800) * 1000000000 + (instant.nanos - 0)
    omega
  have hback : ofMicroseconds? instant.toMicroseconds = some instant := by
    have hplain : columnOrigin.IsPlain := Nat.zero_lt_succ _
    rw [ofMicroseconds?, add?_eq_some_iff hplain, hexact]
    refine ⟨hwhole.plain, ?_⟩
    change _ = (946684800 : Int) * 1000000000 + 0 +
      ((instant.seconds - 946684800) * 1000000000 + (instant.nanos - 0))
    omega
  rw [inColumn, hback]
  rfl

theorem isWhole_of_add? {instant later : Instant} {duration : Duration} (hwhole : instant.IsWhole)
    (hduration : duration.nanoseconds % 1000 = 0) (hadd : instant.add? duration = some later) :
    later.IsWhole := by
  obtain ⟨hplain, hsum⟩ := (add?_eq_some_iff hwhole.plain).1 hadd
  have hmod := hwhole.whole
  exact ⟨hplain, by omega⟩

end Instant

end Stockroom
