import Curator.Proofs.Time.Printed
import Curator.Proofs.Time.WallClock
import Curator.Time.MailDate

/-! Times written as mail dates. A mail date has a front, of date and time of day, and a zone behind
it. Its reader takes the front field by field and leaves what stands behind it; where no zone
follows that it knows, it refuses the text, as it refuses what begins with a year. -/
namespace Curator.MailDate

open Scan
open InternetDate (padded renderYear renderYear_plain)

variable {time : WrittenTime} {rest : List Char}

/-- What may be written in two ways in the front of a mail date. -/
structure Style where
  weekday : Bool
  /-- The digits that the day of the month is filled up to. -/
  dayWidth : Nat
  seconds : Bool

/-- A style can tell a time: one or two digits for the day, and no seconds left out that count. -/
structure Style.Tells (style : Style) (time : WrittenTime) : Prop where
  dayWidth : 1 ≤ style.dayWidth ∧ style.dayWidth ≤ 2
  seconds : style.seconds = false → time.second = 0
  nanos : time.nanos = 0

/-- The day of the week as a style tells it. -/
def Style.weekday? (style : Style) (time : WrittenTime) : Option Nat :=
  if style.weekday then some (Date.weekday time.date.toDays) else none

def writeWeekday (style : Style) (time : WrittenTime) : List Char :=
  match style.weekday? time with
  | some day => weekdayName day ++ [',', ' ']
  | none => []

def writeSeconds (style : Style) (time : WrittenTime) : List Char :=
  if style.seconds then ':' :: padded 2 time.second else []

/-- Date and time of day, as in `Mon, 24 Feb 2014 05:57:39`. -/
def writeFront (style : Style) (time : WrittenTime) : List Char :=
  writeWeekday style time ++ (padded style.dayWidth time.date.day ++ ' ' ::
    (monthName time.date.month ++ ' ' :: (renderYear time.date.year ++ ' ' ::
      (padded 2 time.hour ++ ':' :: (padded 2 time.minute ++ writeSeconds style time)))))

def write (style : Style) (minusZero : Bool) (time : WrittenTime) : List Char :=
  writeFront style time ++ ' ' :: writeOffset [] minusZero time.offsetMinutes

/-- What is left to read behind the front of a mail date. -/
def ending (time : WrittenTime) : Scan WrittenTime := do
  someBlanks
  let offsetMinutes ← zone
  if onlyComments (← get) then
    set ([] : List Char)
    return { time with offsetMinutes }
  else failure

theorem Style.weekday?_lt {style : Style} {day : Nat} (told : style.weekday? time = some day) :
    day < 7 := by
  unfold Style.weekday? Date.weekday at told
  split at told
  · obtain rfl := Option.some.inj told
    omega
  · cases told

theorem isFlush_writeWeekday (style : Style) (time : WrittenTime) (rest : List Char)
    (flush : IsFlush rest) : IsFlush (writeWeekday style time ++ rest) := by
  unfold writeWeekday
  cases told : style.weekday? time with
  | none => exact flush
  | some day =>
    simp only [List.append_assoc]
    exact isFlush_weekdayName (Style.weekday?_lt told) _

theorem takes_leadingWeekday_none (width number : Nat) (rest : List Char) :
    leadingWeekday.Takes (padded width number ++ rest) none (padded width number ++ rest) := by
  obtain ⟨digit, others, printed, isDigit⟩ := InternetDate.exists_padded_eq_cons width number
  rw [printed]
  exact (takes_optionally_none (weekday_fails isDigit _)).bind (takes_pure _ _)

/-- The day of the week is read, and with it the blank behind it is passed. -/
theorem takes_leadingWeekday (style : Style) (time : WrittenTime) (width number : Nat)
    (rest : List Char) :
    ∃ left, leadingWeekday.Takes (writeWeekday style time ++ (padded width number ++ rest))
      (style.weekday? time) left ∧ blanks.Takes left () (padded width number ++ rest) := by
  have flush := isFlush_padded width number rest
  unfold writeWeekday
  cases told : style.weekday? time with
  | none => exact ⟨_, takes_leadingWeekday_none width number rest, takes_blanks flush⟩
  | some day =>
    refine ⟨_, ?_, takes_blanks_blank flush⟩
    simp only [List.append_assoc]
    refine (takes_optionally (takes_weekday (Style.weekday?_lt told) _)).bind ?_
    exact (takes_exactly ',' _).bind (takes_pure _ _)

/-- The seconds are read with their colon, or none are there and they count as zero. -/
theorem run_seconds {style : Style} (tells : style.Tells time) (fits : time.second < 100)
    (apart : style.seconds = false → (do blanks; exactly ':' : Scan Unit).Fails rest)
    {α : Type} (next : Nat → Scan α) :
    StateT.run (do
        let second ← optionally do
          blanks
          exactly ':'
        let second ← if second.isSome then number 2 2 else pure 0
        next second) (writeSeconds style time ++ rest) =
      StateT.run (next time.second) rest := by
  unfold writeSeconds
  cases written : style.seconds with
  | false =>
    rw [tells.seconds written]
    refine (takes_optionally_none (apart written)).run_bind.trans ?_
    exact (takes_pure 0 rest).run_bind
  | true =>
    have colon : (do blanks; exactly ':' : Scan Unit).Takes
        (':' :: (padded 2 time.second ++ rest)) () (padded 2 time.second ++ rest) :=
      (takes_blanks (isFlush_cons (by decide) _)).bind (takes_exactly ':' _)
    refine (takes_optionally colon).run_bind.trans ?_
    exact (takes_number_padded (by decide) (by decide) fits).run_bind

theorem takes_year {number : Nat} (fits : number < 10 ^ 4)
    (boundary : ∀ character ∈ rest.head?, character.isDigit = false) :
    year.Takes (padded 4 number ++ rest) number rest := by
  have length := InternetDate.length_padded (by decide) fits
  refine (takes_digits (fun _ => InternetDate.isDigit_of_mem_padded) boundary).bind ?_
  simp only [length, InternetDate.value_padded]
  exact takes_pure _ _

theorem run_written_front {style : Style} (reading : time.IsReading) (tells : style.Tells time)
    (apart : style.seconds = false → (do blanks; exactly ':' : Scan Unit).Fails rest) :
    StateT.run written (writeFront style time ++ rest) =
      StateT.run (ending { time with weekday := style.weekday? time }) rest := by
  obtain ⟨yearFits, firstMonth, lastMonth, lastDay⟩ := reading.date_bounds
  have hour := reading.hour
  have minute := reading.minute
  have second := reading.second
  simp only [writeFront, renderYear_plain reading.year, List.append_assoc, List.cons_append]
  refine (takes_blanks (isFlush_writeWeekday _ _ _ (isFlush_padded _ _ _))).run_bind.trans ?_
  obtain ⟨left, weekday, behind⟩ := takes_leadingWeekday style time style.dayWidth time.date.day
    (' ' :: (monthName time.date.month ++ ' ' :: (padded 4 time.date.year.toNat ++ ' ' ::
      (padded 2 time.hour ++ ':' :: (padded 2 time.minute ++
        (writeSeconds style time ++ rest))))))
  refine weekday.run_bind.trans ?_
  refine behind.run_bind.trans ?_
  refine (takes_number_narrow tells.dayWidth.1 tells.dayWidth.2 (by omega)
    (by rintro _ ⟨⟩; rfl)).run_bind.trans ?_
  refine (takes_someBlanks (isFlush_monthName firstMonth lastMonth _)).run_bind.trans ?_
  refine (takes_month firstMonth lastMonth _).run_bind.trans ?_
  refine (takes_someBlanks (isFlush_padded _ _ _)).run_bind.trans ?_
  refine (takes_year yearFits (by rintro _ ⟨⟩; rfl)).run_bind.trans ?_
  refine (takes_someBlanks (isFlush_padded _ _ _)).run_bind.trans ?_
  refine (takes_number_padded (by decide) (by decide) (by omega)).run_bind.trans ?_
  refine (takes_blanks (isFlush_cons (by decide) _)).run_bind.trans ?_
  refine (takes_exactly ':' _).run_bind.trans ?_
  refine (takes_blanks (isFlush_padded _ _ _)).run_bind.trans ?_
  refine (takes_number_padded (by decide) (by decide) (by omega)).run_bind.trans ?_
  refine (run_seconds tells (by omega) apart _).trans ?_
  rw [Int.toNat_of_nonneg reading.year.1, ending, tells.nanos]

theorem onlyComments_nil : onlyComments [] = true := by
  rw [onlyComments]
  rfl

/-- A zone at the end of the text settles what the mail date says. -/
theorem takes_ending {text : List Char} {offsetMinutes : Int} (time : WrittenTime)
    (flush : IsFlush text) (read : zone.Takes text offsetMinutes []) :
    (ending time).Takes (' ' :: text) { time with offsetMinutes } [] := by
  refine (takes_someBlanks flush).bind ?_
  refine read.bind ?_
  refine (takes_get []).bind ?_
  rw [onlyComments_nil]
  rfl

theorem takes_zone_writeOffset {offsetMinutes : Int} (withinDay : offsetMinutes.natAbs < 1440)
    (minusZero : Bool) :
    zone.Takes (writeOffset [] minusZero offsetMinutes) offsetMinutes [] := by
  have taken := takes_writeOffset (pure ()) [] (fun _ => rfl) withinDay minusZero false []
  rw [List.append_nil] at taken
  refine (takes_get _).bind ?_
  have noName : (writeOffset [] minusZero offsetMinutes).takeWhile Char.isAlpha = [] := by
    obtain ⟨sign, others, signed, isSign⟩ := exists_writeOffset_eq_cons [] minusZero offsetMinutes
    rw [signed]
    rcases isSign with rfl | rfl <;> rfl
  simp only [noName]
  exact taken

theorem takes_zone_gmt : zone.Takes "GMT".toList 0 [] := by
  rfl

theorem zone_fails_utc : zone.Fails "UTC".toList := by
  rfl

theorem ending_fails_nil (time : WrittenTime) : (ending time).Fails [] :=
  Fails.bind rfl

theorem ending_fails_utc (time : WrittenTime) : (ending time).Fails (' ' :: "UTC".toList) :=
  (takes_someBlanks (isFlush_cons (by decide) _)).bind_fails zone_fails_utc.bind

/-- A zone behind the front of a mail date, if it can be read, completes it. -/
theorem read?_front {style : Style} {text : List Char} {offsetMinutes : Int}
    (reading : time.IsReading) (tells : style.Tells time) (flush : IsFlush text)
    (apart : style.seconds = false → ∀ first ∈ text.head?, first ≠ ':')
    (read : zone.Takes text offsetMinutes []) :
    read? (writeFront style time ++ ' ' :: text) =
      { time with offsetMinutes, weekday := style.weekday? time }.instant? := by
  have noColon : style.seconds = false →
      (do blanks; exactly ':' : Scan Unit).Fails (' ' :: text) := by
    intro short
    refine (takes_blanks_blank flush).bind_fails ?_
    cases text with
    | nil => exact exactly_fails_nil ':'
    | cons first others => exact exactly_fails (apart short first rfl) others
  have taken : written.Takes (writeFront style time ++ ' ' :: text)
      { time with offsetMinutes, weekday := style.weekday? time } [] :=
    (run_written_front reading tells noColon).trans (takes_ending _ flush read)
  rw [read?, taken.whole]
  rfl

theorem read?_write {style : Style} (reading : time.IsReading) (tells : style.Tells time)
    (minusZero : Bool) : read? (write style minusZero time) =
      { time with weekday := style.weekday? time }.instant? := by
  obtain ⟨sign, others, signed, isSign⟩ :=
    exists_writeOffset_eq_cons [] minusZero time.offsetMinutes
  refine read?_front reading tells ?_ ?_ (takes_zone_writeOffset reading.offset minusZero)
  · rw [signed]
    rcases isSign with rfl | rfl <;> exact isFlush_cons (by decide) _
  · rw [signed]
    rintro _ _ ⟨⟩
    rcases isSign with rfl | rfl <;> decide

/-- Without a zone that it knows, a mail date with seconds is refused. -/
theorem read?_front_eq_none {style : Style} (reading : time.IsReading) (tells : style.Tells time)
    (full : style.seconds = true)
    (refused : (ending { time with weekday := style.weekday? time }).Fails rest) :
    read? (writeFront style time ++ rest) = none := by
  have fails : written.Fails (writeFront style time ++ rest) :=
    (run_written_front reading tells (by simp [full])).trans refused
  rw [read?, fails.whole]
  rfl

theorem read?_padded_eq_none {year : Nat} (fits : year < 10 ^ 4) (rest : List Char) :
    read? (padded 4 year ++ rest) = none := by
  have flush := isFlush_padded 4 year rest
  obtain ⟨day, digit, others, taken, isDigit⟩ :=
    exists_takes_of_longer 2 (by decide) (by decide) fits rest
  have fails : written.Fails (padded 4 year ++ rest) := by
    refine (takes_blanks flush).bind_fails ?_
    refine (takes_leadingWeekday_none 4 year rest).bind_fails ?_
    refine (takes_blanks flush).bind_fails ?_
    refine taken.bind_fails ?_
    exact (someBlanks_fails (isFlush_cons (Text.isWhiteSpace_of_isDigit isDigit) _)).bind
  rw [read?, fails.whole]
  rfl

end Curator.MailDate
