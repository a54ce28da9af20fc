import Mathlib.Tactic.IntervalCases
import Curator.Time.Calendar

/-! The calendar in both directions. A period of 400 years is cut into centuries, these into cycles
of four years, and these into years; the last part of each may be a day longer or shorter. -/
namespace Curator.Date

/-- Every day of a period lies in a cycle of a century. The last cycle of a century is a day shorter
than the others, but not that of the last century. -/
private theorem exists_cycle {day : Nat} (within : day < 146097) :
    ∃ century cycle dayOfCycle, day = 36524 * century + 1461 * cycle + dayOfCycle ∧
      century ≤ 3 ∧ cycle ≤ 24 ∧ dayOfCycle ≤ 1460 ∧
      (dayOfCycle = 1460 → cycle = 24 → century = 3) := by
  obtain ⟨century, dayOfCentury, split, last, bounded⟩ : ∃ century dayOfCentury,
      day = 36524 * century + dayOfCentury ∧ century ≤ 3 ∧
        (dayOfCentury < 36524 ∨ dayOfCentury = 36524 ∧ century = 3) := by
    by_cases final : day = 146096
    · exact ⟨3, 36524, final, Nat.le_refl _, .inr ⟨rfl, rfl⟩⟩
    · exact ⟨day / 36524, day % 36524, by omega, by omega, .inl (by omega)⟩
  exact ⟨century, dayOfCentury / 1461, dayOfCentury % 1461, by omega, last, by omega, by omega,
    by omega⟩

private theorem yearOfPeriod_eq {century cycle dayOfCycle : Nat} (lastCentury : century ≤ 3)
    (lastCycle : cycle ≤ 24) (lastDay : dayOfCycle ≤ 1460)
    (longest : dayOfCycle = 1460 → cycle = 24 → century = 3) {day : Nat}
    (split : day = 36524 * century + 1461 * cycle + dayOfCycle) :
    yearOfPeriod day = 100 * century + 4 * cycle + min (dayOfCycle / 365) 3 := by
  have centuries : day / 36524 = century + day / 146096 := by
    by_cases final : dayOfCycle = 1460 ∧ cycle = 24
    · have lastOfAll := longest final.1 final.2
      omega
    · have short : 1461 * cycle + dayOfCycle < 36524 := by omega
      have notFinal : day / 146096 = 0 := by omega
      omega
  unfold yearOfPeriod
  -- Every century lacks 24 days to 25 times 1460, and every cycle has a day more than 1460.
  by_cases carries : 1460 ≤ 24 * century + cycle + dayOfCycle
  · have leapDays : day / 1460 = 25 * century + cycle + 1 := by omega
    have plain : day - day / 1460 + day / 36524 - day / 146096 =
        365 * (100 * century + 4 * cycle) + (dayOfCycle - 1) := by omega
    rw [plain]
    omega
  · have leapDays : day / 1460 = 25 * century + cycle := by omega
    have plain : day - day / 1460 + day / 36524 - day / 146096 =
        365 * (100 * century + 4 * cycle) + dayOfCycle := by omega
    rw [plain]
    omega

private theorem daysBeforeYearOfPeriod_eq {century cycle yearOfCycle : Nat}
    (lastCycle : cycle ≤ 24) (lastYear : yearOfCycle ≤ 3) :
    daysBeforeYearOfPeriod (100 * century + 4 * cycle + yearOfCycle) =
      36524 * century + 1461 * cycle + 365 * yearOfCycle := by
  have leapYears : (100 * century + 4 * cycle + yearOfCycle) / 4 = 25 * century + cycle := by
    omega
  have centuries : (100 * century + 4 * cycle + yearOfCycle) / 100 = century := by omega
  rw [daysBeforeYearOfPeriod, leapYears, centuries]
  omega

/-- A year that begins in March has 365 days, and one more where it ends in a leap year. -/
private theorem exists_dayOfYear {day : Nat} (within : day < 146097) :
    ∃ dayOfYear, day = daysBeforeYearOfPeriod (yearOfPeriod day) + dayOfYear ∧
      yearOfPeriod day ≤ 399 ∧ dayOfYear ≤ 365 ∧
      (dayOfYear = 365 → (yearOfPeriod day + 1) % 4 = 0 ∧
        ((yearOfPeriod day + 1) % 100 = 0 → (yearOfPeriod day + 1) % 400 = 0)) := by
  obtain ⟨century, cycle, dayOfCycle, split, lastCentury, lastCycle, lastDay, longest⟩ :=
    exists_cycle within
  obtain ⟨yearOfCycle, dayOfYear, ofCycle, found, lastYear, bounded, last⟩ :
      ∃ yearOfCycle dayOfYear, dayOfCycle = 365 * yearOfCycle + dayOfYear ∧
        min (dayOfCycle / 365) 3 = yearOfCycle ∧ yearOfCycle ≤ 3 ∧ dayOfYear ≤ 365 ∧
        (dayOfYear = 365 → yearOfCycle = 3 ∧ dayOfCycle = 1460) :=
    ⟨min (dayOfCycle / 365) 3, dayOfCycle - 365 * min (dayOfCycle / 365) 3, by omega, rfl,
      by omega, by omega, by omega⟩
  have year : yearOfPeriod day = 100 * century + 4 * cycle + yearOfCycle :=
    found ▸ yearOfPeriod_eq lastCentury lastCycle lastDay longest split
  rw [year, daysBeforeYearOfPeriod_eq lastCycle lastYear]
  refine ⟨dayOfYear, by omega, by omega, bounded, ?_⟩
  intro leapDay
  obtain ⟨lastYear, lastOfCycle⟩ := last leapDay
  constructor
  · omega
  · intro fullCentury
    have lastOfAll : century = 3 := longest lastOfCycle (by omega)
    omega

private theorem exists_dayOfMonth {dayOfYear : Nat} (within : dayOfYear ≤ 365) :
    ∃ dayOfMonth, dayOfYear = daysBeforeMonth (monthFromMarch dayOfYear) + dayOfMonth ∧
      monthFromMarch dayOfYear ≤ 11 ∧
      daysBeforeMonth (monthFromMarch dayOfYear) + dayOfMonth <
        daysBeforeMonth (monthFromMarch dayOfYear + 1) := by
  unfold daysBeforeMonth monthFromMarch
  exact ⟨dayOfYear - (153 * ((5 * dayOfYear + 2) / 153) + 2) / 5, by omega, by omega, by omega⟩

private theorem daysBeforeYear_period (period : Int) {year : Nat} (within : year ≤ 399) :
    daysBeforeYear (period * 400 + year) = 146097 * period + daysBeforeYearOfPeriod year := by
  unfold daysBeforeYear daysBeforeYearOfPeriod
  omega

/-- A day number falls on a day of a month of a year that begins in March, all counted from 0. -/
private structure FallsOn (days year : Int) (month day : Nat) : Prop where
  number : days + epochOffset = daysBeforeYear year + (daysBeforeMonth month + day : Nat)
  lastMonth : month ≤ 11
  inMonth : daysBeforeMonth month + day < daysBeforeMonth (month + 1)
  inYear : daysBeforeMonth month + day ≤ 365
  leapDay : daysBeforeMonth month + day = 365 → isLeapYear (year + 1) = true

private def ofMarch (year : Int) (month day : Nat) : Date :=
  { year := if month < 10 then year else year + 1
    month := if month < 10 then month + 3 else month - 9
    day := day + 1 }

private theorem exists_fallsOn (days : Int) :
    ∃ year month day, FallsOn days year month day ∧ ofDays days = ofMarch year month day := by
  have within : ((days + epochOffset) % 146097).toNat < 146097 := by omega
  obtain ⟨dayOfYear, ofPeriod, lastYear, bounded, leap⟩ := exists_dayOfYear within
  obtain ⟨dayOfMonth, ofYear, lastMonth, inMonth⟩ := exists_dayOfMonth bounded
  have shape := daysBeforeYear_period ((days + epochOffset) / 146097) lastYear
  refine ⟨(days + epochOffset) / 146097 * 400 +
      yearOfPeriod ((days + epochOffset) % 146097).toNat,
    monthFromMarch dayOfYear, dayOfMonth, ?_, ?_⟩
  · exact {
      number := by
        rw [shape, ← ofYear]
        omega
      lastMonth
      inMonth
      inYear := ofYear ▸ bounded
      leapDay := by
        intro last
        obtain ⟨fourth, century⟩ := leap (by omega)
        simp only [isLeapYear, Bool.and_eq_true, Bool.or_eq_true, beq_iff_eq, bne_iff_ne]
        omega }
  · have rest : ((days + epochOffset) % 146097).toNat -
        daysBeforeYearOfPeriod (yearOfPeriod ((days + epochOffset) % 146097).toNat) =
          dayOfYear := by omega
    have day : dayOfYear - daysBeforeMonth (monthFromMarch dayOfYear) = dayOfMonth := by omega
    simp only [ofDays, ofMarch, rest, day, Date.mk.injEq, and_true]
    split <;> split <;> omega

theorem toDays_ofDays (days : Int) : (ofDays days).toDays = days := by
  obtain ⟨year, month, day, falls, found⟩ := exists_fallsOn days
  have number := falls.number
  have lastMonth := falls.lastMonth
  rw [found]
  by_cases early : month < 10
  · have late : ¬ month + 3 ≤ 2 := by omega
    simp only [ofMarch, early, if_true, toDays, late, if_false, Nat.add_sub_cancel]
    omega
  · have january : month - 9 ≤ 2 := by omega
    have fromMarch : month - 9 + 9 = month := by omega
    simp only [ofMarch, early, if_false, toDays, january, if_true, fromMarch, Int.add_sub_cancel]
    omega

/-- But for February, the months have the lengths that the days before them tell. -/
private theorem daysInMonth_ofMarch (year : Int) (day : Nat) {month : Nat} (early : month < 11) :
    daysInMonth (ofMarch year month day).year (ofMarch year month day).month =
      daysBeforeMonth (month + 1) - daysBeforeMonth month := by
  interval_cases month <;> rfl

private theorem le_daysInMonth_ofMarch {days year : Int} {month day : Nat}
    (falls : FallsOn days year month day) :
    (ofMarch year month day).day ≤
      daysInMonth (ofMarch year month day).year (ofMarch year month day).month := by
  have lastMonth := falls.lastMonth
  have inMonth := falls.inMonth
  by_cases february : month = 11
  · subst february
    have inYear := falls.inYear
    have leapDay := falls.leapDay
    simp only [daysBeforeMonth] at inYear leapDay
    change day + 1 ≤ if isLeapYear (year + 1) = true then 29 else 28
    split
    · omega
    · rename_i common
      have notLast : ¬ (153 * 11 + 2) / 5 + day = 365 := fun last => common (leapDay last)
      omega
  · rw [daysInMonth_ofMarch year day (by omega)]
    change day + 1 ≤ _
    omega

theorem daysInMonth_le (year : Int) (month : Nat) : daysInMonth year month ≤ 31 := by
  unfold daysInMonth
  split
  · split <;> decide
  all_goals decide

/-- The day found for a number is one of the calendar, as far as its year can be held. -/
theorem isValid_ofDays {days : Int} (inRange : yearInRange (ofDays days).year = true) :
    (ofDays days).isValid = true := by
  obtain ⟨year, month, day, falls, found⟩ := exists_fallsOn days
  have bounded := le_daysInMonth_ofMarch falls
  have lastMonth := falls.lastMonth
  have someMonth : 1 ≤ (ofMarch year month day).month ∧ (ofMarch year month day).month ≤ 12 := by
    simp only [ofMarch]
    split <;> omega
  have someDay : 1 ≤ (ofMarch year month day).day := Nat.le_add_left _ _
  rw [found] at inRange ⊢
  simp only [isValid, Bool.and_eq_true, decide_eq_true_eq]
  exact ⟨⟨⟨⟨inRange, someMonth.1⟩, someMonth.2⟩, someDay⟩, bounded⟩

private theorem FallsOn.year_le {days year otherYear : Int} {month day otherMonth otherDay : Nat}
    (falls : FallsOn days year month day) (other : FallsOn days otherYear otherMonth otherDay) :
    year ≤ otherYear := by
  by_contra later
  have same := falls.number.symm.trans other.number
  have bounded := other.inYear
  have grows : daysBeforeYear (otherYear + 1) ≤ daysBeforeYear year := by
    unfold daysBeforeYear
    omega
  by_cases leapDay : daysBeforeMonth otherMonth + otherDay = 365
  · have leap := other.leapDay leapDay
    simp only [isLeapYear, Bool.and_eq_true, Bool.or_eq_true, beq_iff_eq, bne_iff_ne] at leap
    have longer : daysBeforeYear (otherYear + 1) = daysBeforeYear otherYear + 366 := by
      unfold daysBeforeYear
      omega
    omega
  · have year : daysBeforeYear otherYear + 365 ≤ daysBeforeYear (otherYear + 1) := by
      unfold daysBeforeYear
      omega
    omega

private theorem daysBeforeMonth_mono {month later : Nat} (ordered : month ≤ later) :
    daysBeforeMonth month ≤ daysBeforeMonth later :=
  Nat.div_le_div_right (by omega)

private theorem FallsOn.month_le {days year otherYear : Int}
    {month day otherMonth otherDay : Nat} (falls : FallsOn days year month day)
    (other : FallsOn days otherYear otherMonth otherDay)
    (same : daysBeforeMonth month + day = daysBeforeMonth otherMonth + otherDay) :
    month ≤ otherMonth := by
  by_contra later
  have grows : daysBeforeMonth (otherMonth + 1) ≤ daysBeforeMonth month :=
    daysBeforeMonth_mono (by omega)
  have bounded := other.inMonth
  have inMonth := falls.inMonth
  omega

private theorem FallsOn.unique {days year otherYear : Int} {month day otherMonth otherDay : Nat}
    (falls : FallsOn days year month day) (other : FallsOn days otherYear otherMonth otherDay) :
    year = otherYear ∧ month = otherMonth ∧ day = otherDay := by
  obtain rfl : year = otherYear := Int.le_antisymm (falls.year_le other) (other.year_le falls)
  have same := falls.number.symm.trans other.number
  obtain rfl : month = otherMonth :=
    Nat.le_antisymm (falls.month_le other (by omega)) (other.month_le falls (by omega))
  exact ⟨rfl, rfl, by omega⟩

/-- A date with its year counted from March falls on its own number. -/
private theorem fallsOn_ofMarch {year : Int} {month day : Nat} (lastMonth : month ≤ 11)
    (inMonth : (ofMarch year month day).day ≤
      daysInMonth (ofMarch year month day).year (ofMarch year month day).month) :
    FallsOn (ofMarch year month day).toDays year month day := by
  have number : (ofMarch year month day).toDays + epochOffset =
      daysBeforeYear year + (daysBeforeMonth month + day : Nat) := by
    simp only [toDays, ofMarch]
    by_cases early : month < 10
    · have late : ¬ month + 3 ≤ 2 := by omega
      simp only [early, if_true, late, if_false, Nat.add_sub_cancel]
      omega
    · have january : month - 9 ≤ 2 := by omega
      have fromMarch : month - 9 + 9 = month := by omega
      simp only [early, if_false, january, if_true, fromMarch, Int.add_sub_cancel]
      omega
  -- Only the last month of a year that begins in March has no length of its own.
  by_cases february : month = 11
  · subst february
    change day + 1 ≤ if isLeapYear (year + 1) = true then 29 else 28 at inMonth
    have short : day ≤ 28 ∧ (day = 28 → isLeapYear (year + 1) = true) := by
      split at inMonth
      · exact ⟨by omega, fun _ => by assumption⟩
      · exact ⟨by omega, by omega⟩
    exact {
      number
      lastMonth
      inMonth := by
        simp only [daysBeforeMonth]
        omega
      inYear := by
        simp only [daysBeforeMonth]
        omega
      leapDay := by
        simp only [daysBeforeMonth]
        exact fun last => short.2 (by omega) }
  · rw [daysInMonth_ofMarch year day (by omega)] at inMonth
    change day + 1 ≤ _ at inMonth
    have beforeFebruary : daysBeforeMonth (month + 1) ≤ 337 := by
      unfold daysBeforeMonth
      omega
    exact {
      number
      lastMonth
      inMonth := by omega
      inYear := by omega
      leapDay := by omega }

private theorem exists_eq_ofMarch {date : Date} (someMonth : 1 ≤ date.month ∧ date.month ≤ 12)
    (someDay : 1 ≤ date.day) :
    ∃ year month day, month ≤ 11 ∧ date = ofMarch year month day := by
  obtain ⟨year, month, day⟩ := date
  simp only at *
  by_cases january : month ≤ 2
  · refine ⟨year - 1, month + 9, day - 1, by omega, ?_⟩
    simp only [ofMarch, show ¬ month + 9 < 10 by omega, if_false, mk.injEq]
    omega
  · refine ⟨year, month - 3, day - 1, by omega, ?_⟩
    simp only [ofMarch, show month - 3 < 10 by omega, if_true, mk.injEq, true_and]
    omega

/-- The number of a day of the calendar leads back to the day. -/
theorem ofDays_toDays {date : Date} (valid : date.isValid = true) : ofDays date.toDays = date := by
  simp only [isValid, Bool.and_eq_true, decide_eq_true_eq] at valid
  obtain ⟨⟨⟨⟨_, firstMonth⟩, lastMonth⟩, firstDay⟩, inMonth⟩ := valid
  obtain ⟨year, month, day, bounded, rfl⟩ := exists_eq_ofMarch ⟨firstMonth, lastMonth⟩ firstDay
  obtain ⟨_, _, _, falls, found⟩ := exists_fallsOn (ofMarch year month day).toDays
  obtain ⟨rfl, rfl, rfl⟩ := falls.unique (fallsOn_ofMarch bounded inMonth)
  exact found

/-- The days of the years 0 to 9999 are those with numbers in a range, and all days within a year
of them can be held. -/
theorem yearInRange_ofDays {days : Int} (low : -720000 ≤ days) (high : days ≤ 2933300) :
    yearInRange (ofDays days).year = true := by
  obtain ⟨year, month, day, falls, found⟩ := exists_fallsOn days
  have number := falls.number
  have bounded := falls.inYear
  have inYears : -10000 ≤ year ∧ year ≤ 20000 := by
    unfold daysBeforeYear epochOffset at *
    omega
  simp only [found, ofMarch, yearInRange, Bool.and_eq_true, decide_eq_true_eq]
  split <;> omega

end Curator.Date
