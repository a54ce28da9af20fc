import Curator.Proofs.Time.InternetLayout
import Curator.Proofs.Time.MailLayout
import Curator.Time.PlainDate

/-! Times written without a zone. Each layout is the front of a mail date or of an internet date,
and every layout refuses the dates of those that are tried after it. -/
namespace Curator.PlainDate

open Scan
open InternetDate (padded renderDate renderYear_plain)

variable {time : WrittenTime} {rest : List Char}

def mailStyle (weekday : Bool) : MailDate.Style :=
  { weekday, dayWidth := 2, seconds := true }

def internetStyle (divider : Char) : InternetDate.Style :=
  { divider, places := 0 }

def write (layout : Layout) (time : WrittenTime) : List Char :=
  match layout with
  | .weekdayFirst => MailDate.writeFront (mailStyle true) time
  | .dayFirst => MailDate.writeFront (mailStyle false) time
  | .yearFirst => InternetDate.writeFront (internetStyle ' ') time
  | .yearFirstLetter => InternetDate.writeFront (internetStyle 'T') time

theorem tells_mailStyle (nanos : time.nanos = 0) (weekday : Bool) :
    (mailStyle weekday).Tells time :=
  { dayWidth := ⟨Nat.le_succ 1, Nat.le_refl 2⟩
    seconds := by rintro ⟨⟩
    nanos }

theorem tells_internetStyle (nanos : time.nanos = 0) {divider : Char}
    (known : divider ∈ ['T', 't', ' ']) : (internetStyle divider).Tells time :=
  { divider := known
    places := Nat.zero_le 9
    fraction := by
      rw [nanos]
      exact Nat.dvd_zero _ }

theorem takes_clock (reading : time.IsReading) :
    clock.Takes (padded 2 time.hour ++ ':' :: (padded 2 time.minute ++ ':' ::
      padded 2 time.second)) (time.hour, time.minute, time.second) [] := by
  have hour := reading.hour
  have minute := reading.minute
  have second := reading.second
  have secondRead : (InternetDate.field 2).Takes (padded 2 time.second ++ []) time.second [] :=
    takes_field_padded (by decide) (by omega)
  rw [List.append_nil] at secondRead
  refine (takes_field_padded (by decide) (by omega)).bind ?_
  refine (takes_exactly ':' _).bind ?_
  refine (takes_field_padded (by decide) (by omega)).bind ?_
  refine (takes_exactly ':' _).bind ?_
  exact secondRead.bind (takes_pure _ _)

theorem takes_dayFirst (reading : time.IsReading) (nanos : time.nanos = 0)
    (offset : time.offsetMinutes = 0) (weekday : Option Nat) :
    (dayFirst weekday).Takes (MailDate.writeFront (mailStyle false) time)
      { time with weekday } [] := by
  obtain ⟨yearFits, firstMonth, lastMonth, lastDay⟩ := reading.date_bounds
  simp only [MailDate.writeFront, MailDate.writeWeekday, MailDate.Style.weekday?,
    MailDate.writeSeconds, mailStyle, renderYear_plain reading.year]
  refine (takes_field_padded (by decide) (by omega)).bind ?_
  refine (takes_blanks_blank (isFlush_monthName firstMonth lastMonth _)).bind ?_
  refine (takes_month firstMonth lastMonth _).bind ?_
  refine (takes_blanks_blank (isFlush_padded _ _ _)).bind ?_
  refine (InternetDate.takes_signedYear yearFits).bind ?_
  refine (takes_blanks_blank (isFlush_padded _ _ _)).bind ?_
  refine (takes_clock reading).bind ?_
  rw [Int.toNat_of_nonneg reading.year.1, Takes, ← nanos, ← offset]
  rfl

theorem takes_weekdayFirst (reading : time.IsReading) (nanos : time.nanos = 0)
    (offset : time.offsetMinutes = 0) :
    (written .weekdayFirst).Takes (MailDate.writeFront (mailStyle true) time)
      { time with weekday := some (Date.weekday time.date.toDays) } [] := by
  have known : Date.weekday time.date.toDays < 7 := by
    unfold Date.weekday
    omega
  have front : MailDate.writeFront (mailStyle true) time =
      weekdayName (Date.weekday time.date.toDays) ++ ',' :: ' ' ::
        MailDate.writeFront (mailStyle false) time := by
    simp [MailDate.writeFront, MailDate.writeWeekday, MailDate.Style.weekday?,
      MailDate.writeSeconds, mailStyle]
  rw [front]
  refine (takes_weekday known _).bind ?_
  refine (takes_exactly ',' _).bind ?_
  refine (takes_blanks_blank (isFlush_padded _ _ _)).bind ?_
  exact takes_dayFirst reading nanos offset _

/-- A date that begins with its year is read up to what divides date and time. -/
theorem run_yearFirst_date (reading : time.IsReading) (divider : Scan Unit) :
    StateT.run (yearFirst divider) (renderDate time.date ++ rest) =
      StateT.run (do
        divider
        let (hour, minute, second) ← clock
        return { date := time.date, hour, minute, second }) rest := by
  obtain ⟨yearFits, _, lastMonth, lastDay⟩ := reading.date_bounds
  simp only [renderDate, renderYear_plain reading.year, List.append_assoc, List.cons_append]
  refine (InternetDate.takes_signedYear yearFits).run_bind.trans ?_
  refine (takes_exactly '-' _).run_bind.trans ?_
  refine (takes_field_padded (by decide) (by omega)).run_bind.trans ?_
  refine (takes_exactly '-' _).run_bind.trans ?_
  refine (takes_field_padded (by decide) (by omega)).run_bind.trans ?_
  rw [Int.toNat_of_nonneg reading.year.1]

theorem writeFront_internetStyle (divider : Char) (time : WrittenTime) :
    InternetDate.writeFront (internetStyle divider) time =
      renderDate time.date ++ divider :: (padded 2 time.hour ++ ':' :: (padded 2 time.minute ++
        ':' :: padded 2 time.second)) := by
  simp [InternetDate.writeFront, InternetDate.writePlaces, internetStyle]

theorem takes_yearFirst (reading : time.IsReading) (nanos : time.nanos = 0)
    (offset : time.offsetMinutes = 0) {divider : Scan Unit} {mark : Char}
    (divides : ∀ number rest, divider.Takes (mark :: (padded 2 number ++ rest)) ()
      (padded 2 number ++ rest)) :
    (yearFirst divider).Takes (InternetDate.writeFront (internetStyle mark) time)
      { time with weekday := none } [] := by
  rw [writeFront_internetStyle, Takes, run_yearFirst_date reading]
  refine (divides _ _).bind ?_
  refine (takes_clock reading).bind ?_
  rw [Takes, ← nanos, ← offset]
  rfl

/-- The day of the week as a layout tells it. -/
def weekday? (layout : Layout) (time : WrittenTime) : Option Nat :=
  match layout with
  | .weekdayFirst => some (Date.weekday time.date.toDays)
  | .dayFirst | .yearFirst | .yearFirstLetter => none

theorem read?_write (reading : time.IsReading) (nanos : time.nanos = 0)
    (offset : time.offsetMinutes = 0) (layout : Layout) :
    read? layout (write layout time) = { time with weekday := weekday? layout time }.instant? := by
  have taken : (written layout).Takes (write layout time)
      { time with weekday := weekday? layout time } [] := by
    cases layout with
    | weekdayFirst => exact takes_weekdayFirst reading nanos offset
    | dayFirst => exact takes_dayFirst reading nanos offset none
    | yearFirst =>
      exact takes_yearFirst reading nanos offset
        fun _ _ => takes_blanks_blank (isFlush_padded _ _ _)
    | yearFirstLetter => exact takes_yearFirst reading nanos offset fun _ _ => takes_exactly 'T' _
  rw [read?, taken.whole]
  rfl

theorem read?_weekdayFirst_eq_none (width number : Nat) (rest : List Char) :
    read? .weekdayFirst (padded width number ++ rest) = none := by
  obtain ⟨digit, others, printed, isDigit⟩ := InternetDate.exists_padded_eq_cons width number
  have fails : (written .weekdayFirst).Fails (padded width number ++ rest) := by
    rw [printed]
    exact (weekday_fails isDigit _).bind
  rw [read?, fails.whole]
  rfl

theorem read?_dayFirst_eq_none {year : Nat} (fits : year < 10 ^ 4) (rest : List Char) :
    read? .dayFirst (padded 4 year ++ rest) = none := by
  obtain ⟨day, digit, others, taken, isDigit⟩ :=
    exists_takes_of_longer 2 (by decide) (by decide) fits rest
  have field : (InternetDate.field 2).Takes (padded 4 year ++ rest) day (digit :: others) :=
    (takes_blanks_padded 4 year rest).bind taken
  have fails : (written .dayFirst).Fails (padded 4 year ++ rest) := by
    refine field.bind_fails ?_
    refine (takes_blanks (isFlush_cons (Text.isWhiteSpace_of_isDigit isDigit) _)).bind_fails ?_
    exact (month_fails isDigit _).bind
  rw [read?, fails.whole]
  rfl

theorem read?_yearFirst_eq_none (reading : time.IsReading) :
    read? .yearFirst (write .yearFirstLetter time) = none := by
  have fails : (written .yearFirst).Fails (write .yearFirstLetter time) := by
    refine (run_yearFirst_date reading blanks).trans ?_
    refine (takes_blanks (isFlush_cons (by decide) _)).bind_fails ?_
    refine Fails.bind (Fails.bind ?_)
    refine (takes_blanks (isFlush_cons (by decide) _)).bind_fails ?_
    exact number_fails [] (by decide) (by decide) _
  rw [read?, fails.whole]
  rfl

end Curator.PlainDate
