import Curator.Proofs.Time.Calendar
import Curator.Proofs.Time.Fields

/-! Instants of the years 0 to 9999 are read back exactly as they were printed. -/
namespace Curator

namespace Timestamp

/-- Whether the year of an instant has at most four digits and no sign. -/
def HasPlainYear (instant : Timestamp) : Prop :=
  0 ≤ instant.date.year ∧ instant.date.year ≤ 9999

instance (instant : Timestamp) : Decidable instant.HasPlainYear :=
  inferInstanceAs (Decidable (_ ∧ _))

theorem HasPlainYear.yearInRange {instant : Timestamp} (plain : instant.HasPlainYear) :
    Date.yearInRange instant.date.year = true := by
  obtain ⟨lower, upper⟩ := plain
  simp only [Date.yearInRange, Bool.and_eq_true, decide_eq_true_eq]
  omega

/-- What a wall clock shows of universal time at an instant. -/
def reading (instant : Timestamp) : WrittenTime where
  date := instant.date
  hour := instant.secondOfDay / 3600
  minute := instant.secondOfDay / 60 % 60
  second := instant.secondOfDay % 60 + instant.nanos / nanosPerSecond
  nanos := instant.nanos % nanosPerSecond

theorem secondOfDay_lt (instant : Timestamp) : instant.secondOfDay < 86400 := by
  unfold secondOfDay
  omega

/-- A second is the 60th exactly in a leap second, which prolongs the 59th. -/
theorem reading_second (instant : Timestamp) :
    instant.reading.second ≤ 60 ∧
      (instant.reading.second = 60 ↔ nanosPerSecond ≤ instant.nanos) ∧
      (if instant.reading.second = 60 then 59 else instant.reading.second) =
        instant.secondOfDay % 60 := by
  have bound := instant.nanos_lt
  by_cases leap : nanosPerSecond ≤ instant.nanos
  · have last := instant.minute_end leap
    have sixty : instant.reading.second = 60 ∧ instant.secondOfDay % 60 = 59 := by
      simp only [reading, secondOfDay, nanosPerSecond] at leap ⊢
      omega
    rw [if_pos sixty.1]
    exact ⟨Nat.le_of_eq sixty.1, iff_of_true sixty.1 leap, sixty.2.symm⟩
  · have plain : instant.reading.second = instant.secondOfDay % 60 := by
      simp only [reading, nanosPerSecond] at leap ⊢
      omega
    have less : instant.reading.second < 60 := plain ▸ Nat.mod_lt _ (by decide)
    rw [if_neg (Nat.ne_of_lt less)]
    exact ⟨Nat.le_of_lt less, iff_of_false (Nat.ne_of_lt less) leap, plain⟩

theorem reading_seconds (instant : Timestamp) : instant.reading.seconds = instant.seconds := by
  obtain ⟨_, _, second⟩ := instant.reading_second
  have days : instant.reading.date.toDays = instant.seconds / 86400 := Date.toDays_ofDays _
  have time : instant.secondOfDay = (instant.seconds % 86400).toNat := rfl
  rw [WrittenTime.seconds, second, days]
  simp only [reading]
  omega

/-- The reading of a clock stands for the instant at which it was read. -/
theorem instant?_reading (instant : Timestamp)
    (inRange : Date.yearInRange instant.date.year = true) :
    instant.reading.instant? = some instant := by
  obtain ⟨bounded, leap, _⟩ := instant.reading_second
  have day := instant.secondOfDay_lt
  have bound := instant.nanos_lt
  have valid : instant.reading.date.isValid = true := Date.isValid_ofDays inRange
  have hour : instant.reading.hour < 24 := by
    simp only [reading]
    omega
  have minute : instant.reading.minute < 60 := Nat.mod_lt _ (by decide)
  have nanos : instant.reading.nanos < 1000000000 := Nat.mod_lt _ (by decide)
  have fields : (instant.reading.date.isValid && instant.reading.hour < 24 &&
      instant.reading.minute < 60 && instant.reading.second ≤ 60 &&
      instant.reading.offsetMinutes.natAbs < 1440 &&
      instant.reading.weekday.all (· == Date.weekday instant.reading.date.toDays)) = true := by
    simp only [valid, hour, minute, bounded, decide_true, Bool.and_self]
    rfl
  have restored : (if instant.reading.second = 60 then instant.reading.nanos + 1000000000
      else instant.reading.nanos) = instant.nanos := by
    split
    · rename_i sixty
      have late := leap.mp sixty
      simp only [reading, nanosPerSecond] at late ⊢
      omega
    · rename_i plain
      have early := mt leap.mpr plain
      simp only [reading, nanosPerSecond] at early ⊢
      omega
  rw [WrittenTime.instant?, if_pos fields, dif_pos nanos]
  simp only [reading_seconds, restored]
  exact if_pos inRange

end Timestamp

namespace InternetDate

open Scan

variable {instant : Timestamp} {rest : List Char}

/-- A character that neither goes on with a number nor with its fraction. -/
def EndsNumber (character : Char) : Prop :=
  character.isDigit = false ∧ character ≠ '.'

theorem takes_point {width places : Nat} (positive : 0 < width) (short : width ≤ 9)
    (fits : places < 10 ^ width)
    (boundary : ∀ character ∈ rest.head?, EndsNumber character) :
    optionalFraction.Takes ('.' :: padded width places ++ rest)
      (places * 10 ^ (9 - width)) rest := by
  refine (takes_peek _).bind ?_
  refine (takes_exactly '.' _).bind ?_
  exact takes_fraction_padded positive short fits
    fun character first => (boundary character first).1

/-- A fraction is read back, with however many places it was printed. -/
theorem takes_optionalFraction {nanos : Nat} (within : nanos < 10 ^ 9)
    (boundary : ∀ character ∈ rest.head?, EndsNumber character) :
    optionalFraction.Takes (renderFraction nanos ++ rest) nanos rest := by
  by_cases none : nanos = 0
  · rw [renderFraction, if_pos none, none]
    refine (takes_peek _).bind ?_
    split
    · rename_i first
      exact absurd rfl (boundary '.' first).2
    · exact takes_pure _ _
  by_cases millis : nanos % 1000000 = 0
  · have whole : nanos / 1000000 * 10 ^ (9 - 3) = nanos := by omega
    have taken := takes_point (by decide) (by decide)
      (show nanos / 1000000 < 10 ^ 3 by omega) boundary
    rw [whole] at taken
    rwa [renderFraction, if_neg none, if_pos millis]
  by_cases micros : nanos % 1000 = 0
  · have whole : nanos / 1000 * 10 ^ (9 - 6) = nanos := by omega
    have taken := takes_point (by decide) (by decide)
      (show nanos / 1000 < 10 ^ 6 by omega) boundary
    rw [whole] at taken
    rwa [renderFraction, if_neg none, if_neg millis, if_pos micros]
  · have taken := takes_point (by decide) (by decide) within boundary
    rw [Nat.sub_self, Nat.pow_zero, Nat.mul_one] at taken
    rwa [renderFraction, if_neg none, if_neg millis, if_neg micros]

theorem takes_clock (boundary : ∀ character ∈ rest.head?, EndsNumber character) :
    clock.Takes (renderClock instant ++ rest)
      (instant.reading.hour, instant.reading.minute, instant.reading.second,
        instant.reading.nanos) rest := by
  obtain ⟨second, _, _⟩ := instant.reading_second
  have day := instant.secondOfDay_lt
  exact takes_clock_fields (by omega) (by omega) (Nat.lt_of_le_of_lt second (by decide))
    (takes_optionalFraction (Nat.mod_lt _ (by decide)) boundary)

theorem renderYear_plain {year : Int} (plain : 0 ≤ year ∧ year ≤ 9999) :
    renderYear year = padded 4 year.toNat := by
  rw [renderYear, if_neg (by omega), if_neg (by omega)]
  congr 1
  omega

/-- The fields of a date in a plain year fit into the places they are printed in. -/
theorem date_fits (plain : instant.HasPlainYear) :
    instant.date.year.toNat < 10 ^ 4 ∧ instant.date.month < 10 ^ 2 ∧
      instant.date.day < 10 ^ 2 := by
  have valid : instant.date.isValid = true := Date.isValid_ofDays plain.yearInRange
  have longest := Date.daysInMonth_le instant.date.year instant.date.month
  simp only [Date.isValid, Bool.and_eq_true, decide_eq_true_eq] at valid
  obtain ⟨⟨⟨_, month⟩, _⟩, day⟩ := valid
  have year := plain.2
  exact ⟨by omega, by omega, by omega⟩

theorem takes_divider : divider.Takes ('T' :: rest) () rest :=
  rfl

theorem takes_zone : (zone (exactly ':')).Takes "+00:00".toList 0 [] :=
  rfl

theorem takes_lenientZone : lenientZone.Takes "Z".toList 0 [] :=
  rfl

theorem takes_written (plain : instant.HasPlainYear) :
    written.Takes (renderNumeric instant) instant.reading [] := by
  obtain ⟨year, month, day⟩ := date_fits plain
  simp only [renderNumeric, renderWith, renderDate, renderYear_plain plain, List.append_assoc,
    List.cons_append]
  refine (takes_number_padded (by decide) (by decide) year).bind ?_
  refine (takes_exactly '-' _).bind ?_
  refine (takes_number_padded (by decide) (by decide) month).bind ?_
  refine (takes_exactly '-' _).bind ?_
  refine (takes_number_padded (by decide) (by decide) day).bind ?_
  refine takes_divider.bind ?_
  refine (takes_clock (by rintro character ⟨⟩; exact ⟨rfl, by decide⟩)).bind ?_
  refine takes_zone.bind ?_
  rw [Int.toNat_of_nonneg plain.1]
  exact takes_pure _ _

theorem takes_signedYear {year : Nat} (fits : year < 10 ^ 4) :
    signedYear.Takes (padded 4 year ++ rest) year rest := by
  obtain ⟨first, others, printed, digit⟩ := exists_padded_eq_cons 4 year
  refine (takes_blanks_padded 4 year rest).bind ?_
  refine Takes.bind (show Takes get (padded 4 year ++ rest) (padded 4 year ++ rest) _ from rfl) ?_
  split
  · rename_i minus
    rw [printed] at minus
    cases minus
    cases digit
  · rename_i plus
    rw [printed] at plus
    cases plus
    cases digit
  · exact (takes_number_padded (by decide) (by decide) fits).bind (takes_pure _ _)

theorem takes_lenientlyWritten (plain : instant.HasPlainYear) :
    lenientlyWritten.Takes (render instant) instant.reading [] := by
  obtain ⟨year, month, day⟩ := date_fits plain
  obtain ⟨second, _, _⟩ := instant.reading_second
  have time := instant.secondOfDay_lt
  simp only [render, renderWith, renderDate, renderClock, renderYear_plain plain,
    List.append_assoc, List.cons_append]
  -- No blank is printed, so nothing is skipped between the fields.
  refine (takes_signedYear year).bind ?_
  refine (takes_blanks (isFlush_cons rfl _)).bind ?_
  refine (takes_exactly '-' _).bind ?_
  refine (takes_field_padded (by decide) month).bind ?_
  refine (takes_blanks (isFlush_cons rfl _)).bind ?_
  refine (takes_exactly '-' _).bind ?_
  refine (takes_field_padded (by decide) day).bind ?_
  refine takes_divider.bind ?_
  refine (takes_field_padded (by decide) (by omega)).bind ?_
  refine (takes_blanks (isFlush_cons rfl _)).bind ?_
  refine (takes_exactly ':' _).bind ?_
  refine (takes_field_padded (by decide) (by omega)).bind ?_
  refine (takes_blanks (isFlush_cons rfl _)).bind ?_
  refine (takes_exactly ':' _).bind ?_
  refine (takes_field_padded (by decide) (Nat.lt_of_le_of_lt second (by decide))).bind ?_
  refine (takes_optionalFraction (Nat.mod_lt _ (by decide))
    (by rintro character ⟨⟩; exact ⟨rfl, by decide⟩)).bind ?_
  refine (takes_blanks (isFlush_cons rfl _)).bind ?_
  refine takes_lenientZone.bind ?_
  refine takes_blanks_nil.bind ?_
  rw [Int.toNat_of_nonneg plain.1]
  exact takes_pure _ _

/-- An instant of a plain year is read back as it was printed with a numeric zone. -/
theorem read?_renderNumeric (plain : instant.HasPlainYear) :
    read? (renderNumeric instant) = some instant := by
  rw [read?, (takes_written plain).whole]
  exact instant.instant?_reading plain.yearInRange

/-- An instant of a plain year is read back as it was printed with a letter for the zone. -/
theorem readLeniently?_render (plain : instant.HasPlainYear) :
    readLeniently? (render instant) = some instant := by
  rw [readLeniently?, (takes_lenientlyWritten plain).whole]
  exact instant.instant?_reading plain.yearInRange

end InternetDate

end Curator
