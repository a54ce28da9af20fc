import Curator.Proofs.Time.Calendar
import Curator.Time.Timestamp

/-! What clocks show. For a date and a time of day on a clock that is some minutes ahead of
universal time there is exactly one instant at which the clock shows them, and this is the instant
that a written time stands for. -/
namespace Curator.WrittenTime

variable {time : WrittenTime} {instant other : Timestamp}

/-- A clock can show the time, in the years 0 to 9999 and outside of leap seconds. It is less than a
day ahead of universal time or behind it. -/
structure IsReading (time : WrittenTime) : Prop where
  date : time.date.isValid = true
  year : 0 ≤ time.date.year ∧ time.date.year ≤ 9999
  hour : time.hour < 24
  minute : time.minute < 60
  second : time.second < 60
  nanos : time.nanos < 1000000000
  offset : time.offsetMinutes.natAbs < 1440

/-- The clock shows the time at an instant. -/
structure IsShownAt (time : WrittenTime) (instant : Timestamp) : Prop where
  date : Date.ofDays ((instant.seconds + time.offsetMinutes * 60) / 86400) = time.date
  clock : (instant.seconds + time.offsetMinutes * 60) % 86400 =
    time.hour * 3600 + time.minute * 60 + time.second
  nanos : instant.nanos = time.nanos

theorem IsShownAt.unique (shown : time.IsShownAt instant) (shownToo : time.IsShownAt other) :
    instant = other := by
  have days : (instant.seconds + time.offsetMinutes * 60) / 86400 =
      (other.seconds + time.offsetMinutes * 60) / 86400 := by
    rw [← Date.toDays_ofDays ((instant.seconds + _) / _), shown.date, ← shownToo.date,
      Date.toDays_ofDays]
  have clocks := shown.clock.trans shownToo.clock.symm
  exact Timestamp.ext_iff.mpr ⟨by omega, shown.nanos.trans shownToo.nanos.symm⟩

theorem IsReading.date_bounds (reading : time.IsReading) :
    time.date.year.toNat < 10 ^ 4 ∧ 1 ≤ time.date.month ∧ time.date.month ≤ 12 ∧
      time.date.day ≤ 31 := by
  have valid := reading.date
  have longest := Date.daysInMonth_le time.date.year time.date.month
  simp only [Date.isValid, Bool.and_eq_true, decide_eq_true_eq] at valid
  obtain ⟨⟨⟨⟨_, firstMonth⟩, lastMonth⟩, _⟩, day⟩ := valid
  have year := reading.year.2
  exact ⟨by omega, firstMonth, lastMonth, by omega⟩

theorem IsReading.toDays_bounds (reading : time.IsReading) :
    -719600 ≤ time.date.toDays ∧ time.date.toDays ≤ 2933000 := by
  obtain ⟨_, firstMonth, lastMonth, lastDay⟩ := reading.date_bounds
  obtain ⟨firstYear, lastYear⟩ := reading.year
  unfold Date.toDays Date.daysBeforeYear Date.daysBeforeMonth Date.epochOffset
  dsimp only
  split <;> omega

/-- A time that a clock can show is written for the instant at which it does, with the right day of
the week or none beside it. -/
theorem IsReading.exists_instant (reading : time.IsReading) {weekday : Option Nat}
    (told : ∀ day, weekday = some day → day = Date.weekday time.date.toDays) :
    ∃ instant, { time with weekday }.instant? = some instant ∧ time.IsShownAt instant := by
  obtain ⟨low, high⟩ := reading.toDays_bounds
  have offset := reading.offset
  have hour := reading.hour
  have minute := reading.minute
  have second := reading.second
  have plain : ¬ time.second = 60 := by omega
  have seconds : { time with weekday }.seconds + time.offsetMinutes * 60 =
      time.date.toDays * 86400 + (time.hour * 3600 + time.minute * 60 + time.second : Nat) := by
    rw [WrittenTime.seconds, if_neg plain]
    push_cast
    omega
  have fields : (time.date.isValid && time.hour < 24 && time.minute < 60 && time.second ≤ 60 &&
      time.offsetMinutes.natAbs < 1440 &&
      weekday.all (· == Date.weekday time.date.toDays)) = true := by
    have sameDay : weekday.all (· == Date.weekday time.date.toDays) = true := by
      rw [Option.all_eq_true]
      exact fun day written => beq_iff_eq.mpr (told day written)
    simp only [reading.date, hour, minute, second.le, offset, sameDay, decide_true, Bool.and_self]
  have inRange :
      Date.yearInRange (Date.ofDays ({ time with weekday }.seconds / 86400)).year = true :=
    Date.yearInRange_ofDays (by omega) (by omega)
  rw [instant?, if_pos fields, dif_pos reading.nanos]
  refine ⟨_, if_pos inRange, ?_⟩
  exact
    { date := by
        have days : ({ time with weekday }.seconds + time.offsetMinutes * 60) / 86400 =
            time.date.toDays := by
          omega
        simp only [days, Date.ofDays_toDays reading.date]
      clock := by
        simp only [seconds]
        omega
      nanos := if_neg plain }

end Curator.WrittenTime
