import Curator.Proofs.Time.Printed
import Curator.Proofs.Time.WallClock

/-! Times written as internet dates. An internet date has a front, of date and time of day, and a
zone behind it. Its reader takes the front field by field; where nothing or a blank follows, it
refuses the text, as it refuses what begins with fewer than four digits. -/
namespace Curator.InternetDate

open Scan

variable {time : WrittenTime} {rest : List Char}

/-- What may be written in several ways in the front of an internet date. -/
structure Style where
  /-- What stands between the date and the time of day. -/
  divider : Char
  places : Nat

/-- A style can tell a time: its divider is known, and its places hold the fraction. -/
structure Style.Tells (style : Style) (time : WrittenTime) : Prop where
  divider : style.divider ∈ ['T', 't', ' ']
  places : style.places ≤ 9
  fraction : 10 ^ (9 - style.places) ∣ time.nanos

/-- The fraction of a second with its point, where it has any places. -/
def writePlaces (places nanos : Nat) : List Char :=
  if places = 0 then [] else '.' :: padded places (nanos / 10 ^ (9 - places))

def writeFront (style : Style) (time : WrittenTime) : List Char :=
  renderDate time.date ++ style.divider :: (padded 2 time.hour ++ ':' :: padded 2 time.minute ++
    ':' :: padded 2 time.second ++ writePlaces style.places time.nanos)

theorem exists_writeFront_eq (reading : time.IsReading) (style : Style) :
    ∃ others, writeFront style time = padded 4 time.date.year.toNat ++ others := by
  simp only [writeFront, renderDate, renderYear_plain reading.year, List.append_assoc]
  exact ⟨_, rfl⟩

/-- What is left to read behind the front of an internet date. -/
def ending (time : WrittenTime) : Scan WrittenTime := do
  let offsetMinutes ← zone (exactly ':')
  return { time with offsetMinutes }

theorem takes_writePlaces {places nanos : Nat} (few : places ≤ 9)
    (whole : 10 ^ (9 - places) ∣ nanos) (within : nanos < 1000000000)
    (boundary : ∀ character ∈ rest.head?, EndsNumber character) :
    optionalFraction.Takes (writePlaces places nanos ++ rest) nanos rest := by
  unfold writePlaces
  split
  · rename_i nothing
    subst nothing
    obtain rfl : nanos = 0 := Nat.eq_zero_of_dvd_of_lt whole within
    refine (takes_peek _).bind ?_
    split
    · rename_i first
      exact absurd rfl (boundary '.' first).2
    · exact takes_pure _ _
  · rename_i some
    have scale : 10 ^ places * 10 ^ (9 - places) = 1000000000 := by
      rw [← Nat.pow_add, Nat.add_sub_cancel' few]
    have fits : nanos / 10 ^ (9 - places) < 10 ^ places := by
      rw [Nat.div_lt_iff_lt_mul (Nat.pow_pos (by decide)), scale]
      exact within
    have taken := takes_point (Nat.pos_of_ne_zero some) few fits boundary
    rwa [Nat.div_mul_cancel whole] at taken

theorem takes_divider_of_mem {divider : Char} (known : divider ∈ ['T', 't', ' '])
    (rest : List Char) : InternetDate.divider.Takes (divider :: rest) () rest := by
  simp only [List.mem_cons, List.not_mem_nil, or_false] at known
  rcases known with rfl | rfl | rfl <;> rfl

theorem run_written_front {style : Style} (reading : time.IsReading) (tells : style.Tells time)
    (boundary : ∀ character ∈ rest.head?, EndsNumber character) :
    StateT.run written (writeFront style time ++ rest) =
      StateT.run (ending { time with weekday := none }) rest := by
  obtain ⟨yearFits, _, lastMonth, lastDay⟩ := reading.date_bounds
  have hour : time.hour < 100 := reading.hour.trans (by decide)
  have minute : time.minute < 100 := reading.minute.trans (by decide)
  have second : time.second < 100 := reading.second.trans (by decide)
  have clockRead := takes_clock_fields hour minute second
    (takes_writePlaces tells.places tells.fraction reading.nanos boundary)
  simp only [writeFront, renderDate, renderYear_plain reading.year, List.append_assoc,
    List.cons_append] at clockRead ⊢
  refine (takes_number_padded (by decide) (by decide) yearFits).run_bind.trans ?_
  refine (takes_exactly '-' _).run_bind.trans ?_
  refine (takes_number_padded (by decide) (by decide) (by omega)).run_bind.trans ?_
  refine (takes_exactly '-' _).run_bind.trans ?_
  refine (takes_number_padded (by decide) (by decide) (by omega)).run_bind.trans ?_
  refine (takes_divider_of_mem tells.divider _).run_bind.trans ?_
  refine clockRead.run_bind.trans ?_
  rw [Int.toNat_of_nonneg reading.year.1, ending]

inductive ZoneStyle where
  | letter
  /-- A signed offset with a colon. -/
  | signed (minusZero : Bool)

/-- A letter tells no other zone than universal time. -/
def ZoneStyle.Tells (style : ZoneStyle) (offsetMinutes : Int) : Prop :=
  style = .letter → offsetMinutes = 0

def writeZone (style : ZoneStyle) (offsetMinutes : Int) : List Char :=
  match style with
  | .letter => ['Z']
  | .signed minusZero => writeOffset [':'] minusZero offsetMinutes

def write (style : Style) (zone : ZoneStyle) (time : WrittenTime) : List Char :=
  writeFront style time ++ writeZone zone time.offsetMinutes

theorem takes_writeZone {zoneStyle : ZoneStyle} {offsetMinutes : Int}
    (tells : zoneStyle.Tells offsetMinutes) (withinDay : offsetMinutes.natAbs < 1440) :
    (zone (exactly ':')).Takes (writeZone zoneStyle offsetMinutes) offsetMinutes [] := by
  cases zoneStyle with
  | letter =>
    obtain rfl : offsetMinutes = 0 := tells rfl
    rfl
  | signed minusZero =>
    have taken := takes_writeOffset (exactly ':') [':'] (takes_exactly ':') withinDay minusZero
      true []
    rw [List.append_nil] at taken
    refine (takes_optionally_none ?_).bind taken
    obtain ⟨sign, others, signed, isSign⟩ :=
      exists_writeOffset_eq_cons [':'] minusZero offsetMinutes
    simp only [writeZone, signed]
    rcases isSign with rfl | rfl <;> rfl

theorem endsNumber_writeZone (zoneStyle : ZoneStyle) (offsetMinutes : Int) :
    ∀ character ∈ (writeZone zoneStyle offsetMinutes).head?, EndsNumber character := by
  cases zoneStyle with
  | letter =>
    rintro _ ⟨⟩
    exact ⟨rfl, by decide⟩
  | signed minusZero =>
    obtain ⟨sign, others, signed, isSign⟩ :=
      exists_writeOffset_eq_cons [':'] minusZero offsetMinutes
    simp only [writeZone, signed]
    rintro _ ⟨⟩
    rcases isSign with rfl | rfl <;> exact ⟨rfl, by decide⟩

theorem read?_write {style : Style} {zone : ZoneStyle} (reading : time.IsReading)
    (tells : style.Tells time) (zoneTells : zone.Tells time.offsetMinutes) :
    read? (write style zone time) = { time with weekday := none }.instant? := by
  have taken : written.Takes (write style zone time) { time with weekday := none } [] :=
    (run_written_front reading tells (endsNumber_writeZone zone _)).trans
      ((takes_writeZone zoneTells reading.offset).bind (takes_pure _ _))
  rw [read?, taken.whole]
  rfl

/-- Where nothing or a blank follows its front, an internet date is refused. -/
theorem read?_front_eq_none {style : Style} (reading : time.IsReading) (tells : style.Tells time)
    (noZone : rest = [] ∨ ∃ text, rest = ' ' :: text) :
    read? (writeFront style time ++ rest) = none := by
  have fails : written.Fails (writeFront style time ++ rest) := by
    rcases noZone with rfl | ⟨text, rfl⟩
    · exact (run_written_front reading tells (by rintro _ ⟨⟩)).trans (Fails.bind rfl)
    · refine (run_written_front reading tells ?_).trans (Fails.bind rfl)
      rintro _ ⟨⟩
      exact ⟨rfl, by decide⟩
  rw [read?, fails.whole]
  rfl

/-- A text that begins with fewer than four digits is no internet date. -/
theorem read?_eq_none_of_few (front : List Char) {stop : Char} (few : front.length < 4)
    (noDigit : stop.isDigit = false) (rest : List Char) :
    read? (front ++ stop :: rest) = none := by
  have fails : written.Fails (front ++ stop :: rest) := (number_fails front few noDigit rest).bind
  rw [read?, fails.whole]
  rfl

end Curator.InternetDate
