import Stockroom.Proofs.Time.Calendar
import Stockroom.Settings

/-!
# Holds of whole seconds

A hold is configured in seconds.  It can be longer than any duration, and a
duration can lead beyond the last year of the calendar.  All that settings are
checked for is that the hold is positive.
-/

namespace Stockroom

/-! ## Durations of whole seconds -/

namespace Duration

/-- The most whole seconds that a duration can have. -/
def secondsLimit : Int := 9223372036854775

/-- The most whole seconds that lead from all instants up to the year 9999 to other instants. -/
def safeSeconds : Int := 7956864576000

variable {seconds : Int} {duration : Duration}

theorem ofSeconds?_eq_none_iff (hpositive : 0 < seconds) :
    ofSeconds? seconds = none ↔ secondsLimit < seconds := by
  rw [ofSeconds?, ofMillis?, millisLimit, secondsLimit]
  split
  · exact iff_of_false nofun (by omega)
  · exact iff_of_true rfl (by omega)

theorem eq_of_ofSeconds? (hduration : ofSeconds? seconds = some duration) :
    duration = ⟨seconds * 1000000000⟩ := by
  rw [ofSeconds?, ofMillis?] at hduration
  split at hduration
  · rw [← Option.some.inj hduration, Int.mul_assoc]
    rfl
  · cases hduration

end Duration

namespace Instant

/-- The last second that an instant can name. -/
def lastSecond : Int := 8210266876799

def year (instant : Instant) : Int :=
  Calendar.yearOfDay (instant.seconds / 86400)

theorem seconds_of_year_le {instant : Instant} (hyear : instant.year ≤ 9999) :
    instant.seconds ≤ 253402300799 := by
  have hended := (Calendar.daysBeforeYear_yearOfDay (instant.seconds / 86400)).2
  rw [Calendar.daysBeforeYear, Int.add_sub_cancel] at hended
  change Calendar.yearOfDay (instant.seconds / 86400) ≤ 9999 at hyear
  -- Only the last of these years comes near the bound.
  by_cases hlast : Calendar.yearOfDay (instant.seconds / 86400) = 9999
  · rw [hlast] at hended
    omega
  · omega

theorem ofParts?_eq_none_iff {seconds : Int} {nanos : Nat} :
    ofParts? seconds nanos = none ↔ ¬ Valid seconds nanos := by
  by_cases hvalid : Valid seconds nanos
  · rw [ofParts?, dif_pos hvalid]
    exact iff_of_false (Option.some_ne_none _) (not_not.2 hvalid)
  · rw [ofParts?, dif_neg hvalid]
    exact iff_of_true rfl hvalid

theorem ofOffset?_of_lt {seconds nanos : Int} (hnonneg : 0 ≤ nanos) (hless : nanos < 1000000000) :
    ofOffset? seconds nanos = ofParts? seconds nanos.toNat := by
  rw [ofOffset?, Int.ediv_eq_zero_of_lt hnonneg hless, Int.emod_eq_of_lt hnonneg hless,
    Int.add_zero]

/-- Some whole seconds later it is so many seconds later, on some nanosecond. -/
theorem add?_seconds (instant : Instant) {seconds : Int} (hpositive : 0 < seconds) :
    ∃ nanos : Nat, nanos < 1000000000 ∧ instant.add? ⟨seconds * 1000000000⟩ =
      ofParts? (instant.seconds + seconds) nanos := by
  have hwhole : (seconds * 1000000000).tdiv 1000000000 = seconds :=
    Int.mul_tdiv_cancel seconds (by decide)
  have hfraction : (seconds * 1000000000).tmod 1000000000 = 0 := Int.mul_tmod_left ..
  have hadd : instant.add? ⟨seconds * 1000000000⟩ =
      if (instant.nanos : Int) < 1000000000 then
        ofOffset? (instant.seconds + seconds) instant.nanos
      else ofOffset? (instant.seconds + seconds) (instant.nanos - 1000000000) := by
    unfold add?
    simp only [hwhole, hfraction, Int.add_zero, hpositive, true_or, if_true]
  have hnanos := instant.valid.2.2.1
  by_cases hplain : (instant.nanos : Int) < 1000000000
  · refine ⟨instant.nanos, by omega, ?_⟩
    rw [hadd, if_pos hplain, ofOffset?_of_lt (by omega) hplain, Int.toNat_natCast]
  · have hrest : ((instant.nanos : Int) - 1000000000).toNat < 1000000000 := by omega
    refine ⟨_, hrest, ?_⟩
    rw [hadd, if_neg hplain, ofOffset?_of_lt (by omega) (by omega)]

theorem add?_seconds_eq_none_iff {instant : Instant} {seconds : Int} (hpositive : 0 < seconds) :
    instant.add? ⟨seconds * 1000000000⟩ = none ↔ lastSecond < instant.seconds + seconds := by
  obtain ⟨nanos, hnanos, hadd⟩ := instant.add?_seconds hpositive
  have hearliest := instant.valid.1
  rw [hadd, ofParts?_eq_none_iff, Valid, lastSecond]
  omega

end Instant

/-! ## Settings -/

namespace Settings

variable {settings : Settings} {config : ForService}

theorem forService_aborts_iff : settings.forService = .error .holdOutOfRange ↔
    Duration.secondsLimit < settings.reservationTtlSecs := by
  rw [forService]
  split
  · rename_i hsmall
    exact iff_of_false nofun fun hlong => absurd (hlong.trans_le hsmall) (by decide)
  · rename_i hpositive
    rw [← Duration.ofSeconds?_eq_none_iff (Int.not_le.1 hpositive)]
    cases Duration.ofSeconds? settings.reservationTtlSecs with
    | none => exact iff_of_true rfl rfl
    | some holdFor => exact iff_of_false nofun nofun

theorem hold_of_forService (hmade : settings.forService = .ok config) :
    0 < settings.reservationTtlSecs ∧
      config.service.holdFor = ⟨settings.reservationTtlSecs * 1000000000⟩ := by
  rw [forService] at hmade
  split at hmade
  · cases hmade
  · rename_i hpositive
    cases hhold : Duration.ofSeconds? settings.reservationTtlSecs with
    | none =>
      rw [hhold] at hmade
      cases hmade
    | some holdFor =>
      rw [hhold] at hmade
      cases hmade
      exact ⟨Int.not_le.1 hpositive, Duration.eq_of_ofSeconds? hhold⟩

end Settings

end Stockroom
