import Curator.Proofs.Feed.DateSurroundings
import Curator.Proofs.Time.PlainLayout

/-! Dates of publication are read back from every layout in which they are written, with white space
around them and a comment behind them. No layout is mistaken for one that is tried before it. -/
namespace Curator.PublicationDate

open Scan
open InternetDate (padded)

variable {time : WrittenTime} {text rest : List Char}

/-- A name of universal time behind a date that has no zone otherwise, or none. -/
inductive ZoneName where
  | unnamed
  | utc
  | gmt
deriving DecidableEq, Repr

/-- The name with the blank before it. -/
def ZoneName.written : ZoneName → List Char
  | .unnamed => []
  | .utc => ' ' :: "UTC".toList
  | .gmt => ' ' :: "GMT".toList

/-- The layouts in which feeds write dates, with what each of them leaves open. -/
inductive Layout where
  | mail (style : MailDate.Style) (minusZero : Bool)
  | internet (style : InternetDate.Style) (zone : InternetDate.ZoneStyle)
  | plain (layout : PlainDate.Layout) (name : ZoneName)

namespace Layout

def write (time : WrittenTime) : Layout → List Char
  | mail style minusZero => MailDate.write style minusZero time
  | internet style zone => InternetDate.write style zone time
  | plain layout name => PlainDate.write layout time ++ name.written

/-- A layout can tell all that a time says. Only internet dates have fractions of a second, and the
layouts without a zone are for universal time. -/
def Tells (time : WrittenTime) : Layout → Prop
  | mail style _ => style.Tells time
  | internet style zone => style.Tells time ∧ zone.Tells time.offsetMinutes
  | plain _ _ => time.nanos = 0 ∧ time.offsetMinutes = 0

end Layout

theorem startsBare_mailFront (style : MailDate.Style) (time : WrittenTime) :
    StartsBare (MailDate.writeFront style time) := by
  unfold MailDate.writeFront MailDate.writeWeekday
  cases told : style.weekday? time with
  | none => exact (startsBare_padded _ _).append _
  | some day =>
    obtain ⟨letter, others, name, isLetter⟩ :=
      exists_weekdayName_eq_cons (MailDate.Style.weekday?_lt told)
    simp only [name]
    exact ⟨letter, rfl, by rw [Char.isAlphanum, isLetter, Bool.true_or]⟩

theorem startsBare_internetFront (reading : time.IsReading) (style : InternetDate.Style) :
    StartsBare (InternetDate.writeFront style time) := by
  obtain ⟨others, written⟩ := InternetDate.exists_writeFront_eq reading style
  rw [written]
  exact (startsBare_padded _ _).append _

theorem startsBare_plain (reading : time.IsReading) (layout : PlainDate.Layout) :
    StartsBare (PlainDate.write layout time) := by
  cases layout with
  | weekdayFirst => exact startsBare_mailFront _ time
  | dayFirst => exact startsBare_mailFront _ time
  | yearFirst => exact startsBare_internetFront reading _
  | yearFirstLetter => exact startsBare_internetFront reading _

theorem endsIn_writeOffset (separator : List Char) (minusZero : Bool) (minutes : Int) :
    EndsIn Char.isDigit (writeOffset separator minusZero minutes) :=
  ((endsIn_padded _ _).append _).cons _

theorem endsIn_plain (layout : PlainDate.Layout) (time : WrittenTime) :
    EndsIn Char.isDigit (PlainDate.write layout time) := by
  have seconds := ((endsIn_padded 2 time.second).cons ':').append (padded 2 time.minute)
  have clock := (seconds.cons ':').append (padded 2 time.hour)
  have mail (weekday : Bool) :
      EndsIn Char.isDigit (MailDate.writeFront (PlainDate.mailStyle weekday) time) :=
    ((((((clock.cons ' ').append _).cons ' ').append _).cons ' ').append _).append _
  have internet (divider : Char) :
      EndsIn Char.isDigit (InternetDate.writeFront (PlainDate.internetStyle divider) time) := by
    rw [PlainDate.writeFront_internetStyle]
    exact (clock.cons divider).append _
  cases layout with
  | weekdayFirst => exact mail true
  | dayFirst => exact mail false
  | yearFirst => exact internet ' '
  | yearFirstLetter => exact internet 'T'

theorem isBare_plain (reading : time.IsReading) (layout : PlainDate.Layout) :
    IsBare (PlainDate.write layout time) :=
  { starts := startsBare_plain reading layout
    ends := (endsIn_plain layout time).isAlphanum }

theorem isBare_write (reading : time.IsReading) (layout : Layout) :
    IsBare (layout.write time) := by
  cases layout with
  | mail style minusZero =>
    exact
      { starts := (startsBare_mailFront style time).append _
        ends := (((endsIn_writeOffset _ _ _).cons _).append _).isAlphanum }
  | internet style zone =>
    refine { starts := (startsBare_internetFront reading style).append _, ends := ?_ }
    cases zone with
    | letter => exact EndsIn.append ⟨'Z', rfl, by decide⟩ _
    | signed minusZero => exact ((endsIn_writeOffset _ _ _).append _).isAlphanum
  | plain layout name =>
    refine { starts := (startsBare_plain reading layout).append _, ends := ?_ }
    cases name with
    | unnamed =>
      rw [Layout.write, ZoneName.written, List.append_nil]
      exact (endsIn_plain layout time).isAlphanum
    | utc => exact EndsIn.append ⟨'C', rfl, by decide⟩ _
    | gmt => exact EndsIn.append ⟨'T', rfl, by decide⟩ _

theorem mail_internetFront_eq_none (reading : time.IsReading) (style : InternetDate.Style)
    (rest : List Char) :
    MailDate.read? (InternetDate.writeFront style time ++ rest) = none := by
  obtain ⟨others, written⟩ := InternetDate.exists_writeFront_eq reading style
  rw [written, List.append_assoc]
  exact MailDate.read?_padded_eq_none reading.date_bounds.1 _

/-- A mail date needs a zone, and so no date without one is a mail date. -/
theorem mail_plain_eq_none (reading : time.IsReading) (nanos : time.nanos = 0)
    (layout : PlainDate.Layout) (refused : ∀ time, (MailDate.ending time).Fails rest) :
    MailDate.read? (PlainDate.write layout time ++ rest) = none := by
  have mail (weekday : Bool) :=
    MailDate.read?_front_eq_none reading (PlainDate.tells_mailStyle nanos weekday) rfl
      (refused { time with weekday := (PlainDate.mailStyle weekday).weekday? time })
  cases layout with
  | weekdayFirst => exact mail true
  | dayFirst => exact mail false
  | yearFirst => exact mail_internetFront_eq_none reading _ rest
  | yearFirstLetter => exact mail_internetFront_eq_none reading _ rest

theorem internet_plain_eq_none (reading : time.IsReading) (nanos : time.nanos = 0)
    (layout : PlainDate.Layout) (noZone : rest = [] ∨ ∃ text, rest = ' ' :: text) :
    InternetDate.read? (PlainDate.write layout time ++ rest) = none := by
  have internet {divider : Char} (known : divider ∈ ['T', 't', ' ']) :=
    InternetDate.read?_front_eq_none reading (PlainDate.tells_internetStyle nanos known) noZone
  cases layout with
  | weekdayFirst =>
    have known : Date.weekday time.date.toDays < 7 := by
      unfold Date.weekday
      omega
    obtain ⟨letter, others, name, isLetter⟩ := exists_weekdayName_eq_cons known
    simp only [PlainDate.write, MailDate.writeFront, MailDate.writeWeekday,
      MailDate.Style.weekday?, PlainDate.mailStyle, if_true, name]
    exact InternetDate.read?_eq_none_of_few [] (by decide)
      (isDigit_of_isAlpha isLetter) _
  | dayFirst =>
    have day := reading.date_bounds.2.2.2
    have length : (padded 2 time.date.day).length = 2 :=
      InternetDate.length_padded (by decide) (by omega)
    simp only [PlainDate.write, MailDate.writeFront, List.append_assoc]
    exact InternetDate.read?_eq_none_of_few (padded 2 time.date.day) (by omega) rfl _
  | yearFirst => exact internet (by decide)
  | yearFirstLetter => exact internet (by decide)

theorem findSome?_plain {instant : Timestamp} (reading : time.IsReading) (nanos : time.nanos = 0)
    (offset : time.offsetMinutes = 0) (layout : PlainDate.Layout)
    (found : { time with weekday := PlainDate.weekday? layout time }.instant? = some instant) :
    plainLayouts.findSome? (PlainDate.read? · (PlainDate.write layout time)) = some instant := by
  have own : PlainDate.read? layout (PlainDate.write layout time) = some instant := by
    rw [PlainDate.read?_write reading nanos offset, found]
  -- Layouts are tried in turn; those before the right one must refuse the text.
  have yearly (divider : Char) :
      PlainDate.read? .weekdayFirst
          (InternetDate.writeFront (PlainDate.internetStyle divider) time) = none ∧
        PlainDate.read? .dayFirst
          (InternetDate.writeFront (PlainDate.internetStyle divider) time) = none := by
    obtain ⟨others, written⟩ :=
      InternetDate.exists_writeFront_eq reading (PlainDate.internetStyle divider)
    rw [written]
    exact ⟨PlainDate.read?_weekdayFirst_eq_none _ _ _,
      PlainDate.read?_dayFirst_eq_none reading.date_bounds.1 _⟩
  unfold plainLayouts
  cases layout with
  | weekdayFirst => simp only [List.findSome?_cons, own]
  | dayFirst =>
    have notWeekday : PlainDate.read? .weekdayFirst (PlainDate.write .dayFirst time) = none :=
      PlainDate.read?_weekdayFirst_eq_none _ _ _
    simp only [List.findSome?_cons, notWeekday, own]
  | yearFirst =>
    obtain ⟨notWeekday, notDay⟩ := yearly ' '
    simp only [PlainDate.write] at own ⊢
    simp only [List.findSome?_cons, notWeekday, notDay, own]
  | yearFirstLetter =>
    obtain ⟨notWeekday, notDay⟩ := yearly 'T'
    have notYear := PlainDate.read?_yearFirst_eq_none reading
    simp only [PlainDate.write] at own notYear ⊢
    simp only [List.findSome?_cons, notWeekday, notDay, notYear, own]

/-- The readers in turn, on a date with nothing around it. -/
def readBare? (date : List Char) : Option Timestamp :=
  MailDate.read? date <|> InternetDate.read? date <|>
    plainLayouts.findSome? (PlainDate.read? · (withoutZoneName date))

theorem readBare?_mail {instant : Timestamp} {date : List Char}
    (found : MailDate.read? date = some instant) : readBare? date = some instant := by
  rw [readBare?, found]
  rfl

theorem readBare?_internet {instant : Timestamp} {date : List Char}
    (noMail : MailDate.read? date = none) (found : InternetDate.read? date = some instant) :
    readBare? date = some instant := by
  rw [readBare?, noMail, found]
  rfl

theorem readBare?_plain {instant : Timestamp} {date : List Char}
    (noMail : MailDate.read? date = none) (noInternet : InternetDate.read? date = none)
    (found : plainLayouts.findSome? (PlainDate.read? · (withoutZoneName date)) = some instant) :
    readBare? date = some instant := by
  rw [readBare?, noMail, noInternet, found]
  rfl

theorem readBare?_mail_write {style : MailDate.Style} (reading : time.IsReading)
    (tells : style.Tells time) (minusZero : Bool) :
    ∃ instant, readBare? (MailDate.write style minusZero time) = some instant ∧
      time.IsShownAt instant := by
  have told : ∀ day, style.weekday? time = some day → day = Date.weekday time.date.toDays := by
    intro day known
    unfold MailDate.Style.weekday? at known
    split at known
    · exact (Option.some.inj known).symm
    · cases known
  obtain ⟨instant, found, shown⟩ := reading.exists_instant told
  have read := (MailDate.read?_write reading tells minusZero).trans found
  exact ⟨instant, readBare?_mail read, shown⟩

theorem readBare?_internet_write {style : InternetDate.Style} {zone : InternetDate.ZoneStyle}
    (reading : time.IsReading) (tells : style.Tells time)
    (zoneTells : zone.Tells time.offsetMinutes) :
    ∃ instant, readBare? (InternetDate.write style zone time) = some instant ∧
      time.IsShownAt instant := by
  obtain ⟨instant, found, shown⟩ := reading.exists_instant
    fun day (told : none = some day) => nomatch told
  exact ⟨instant, readBare?_internet (mail_internetFront_eq_none reading style _)
    ((InternetDate.read?_write reading tells zoneTells).trans found), shown⟩

/-- A date without a zone is read as universal time, also where the name of it follows. The name
`GMT` makes a mail date of a date with a name for its month; any other name is left out. -/
theorem readBare?_plain_write (reading : time.IsReading) (nanos : time.nanos = 0)
    (offset : time.offsetMinutes = 0) (layout : PlainDate.Layout) (name : ZoneName) :
    ∃ instant, readBare? (PlainDate.write layout time ++ name.written) = some instant ∧
      time.IsShownAt instant := by
  have told : ∀ day, PlainDate.weekday? layout time = some day →
      day = Date.weekday time.date.toDays := by
    intro day known
    cases layout <;> cases known
    rfl
  obtain ⟨instant, found, shown⟩ := reading.exists_instant told
  have plain := findSome?_plain reading nanos offset layout found
  have named (name : List Char) (shown : name ≠ []) (letters : name.all Char.isAlpha = true) :
      plainLayouts.findSome? (PlainDate.read? ·
        (withoutZoneName (PlainDate.write layout time ++ ' ' :: name))) = some instant := by
    rwa [withoutZoneName_append shown letters (isBare_plain reading layout)]
  refine ⟨instant, ?_, shown⟩
  cases name with
  | unnamed =>
    have noMail := mail_plain_eq_none reading nanos layout MailDate.ending_fails_nil
    have noInternet := internet_plain_eq_none reading nanos layout (.inl rfl)
    rw [List.append_nil] at noMail noInternet
    rw [ZoneName.written, List.append_nil]
    exact readBare?_plain noMail noInternet
      (by rwa [withoutZoneName_of_endsIn (endsIn_plain layout time)])
  | utc =>
    exact readBare?_plain
      (mail_plain_eq_none reading nanos layout MailDate.ending_fails_utc)
      (internet_plain_eq_none reading nanos layout (.inr ⟨_, rfl⟩))
      (named "UTC".toList (by decide) (by decide))
  | gmt =>
    -- This name makes a mail date of a date with a name for its month, and mail dates come first.
    have mail (weekday : Bool) :
        MailDate.read? (MailDate.writeFront (PlainDate.mailStyle weekday) time ++
          ZoneName.gmt.written) = { time with
            offsetMinutes := 0
            weekday := (PlainDate.mailStyle weekday).weekday? time }.instant? :=
      MailDate.read?_front reading (PlainDate.tells_mailStyle nanos weekday)
        (isFlush_cons (by decide) _) (by rintro ⟨⟩) MailDate.takes_zone_gmt
    have noInternet := internet_plain_eq_none reading nanos layout (.inr ⟨"GMT".toList, rfl⟩)
    have left := named "GMT".toList (by decide) (by decide)
    rw [← offset] at mail
    cases layout with
    | weekdayFirst => exact readBare?_mail ((mail true).trans found)
    | dayFirst => exact readBare?_mail ((mail false).trans found)
    | yearFirst =>
      exact readBare?_plain (mail_internetFront_eq_none reading _ _) noInternet left
    | yearFirstLetter =>
      exact readBare?_plain (mail_internetFront_eq_none reading _ _) noInternet left

theorem readBare?_write (reading : time.IsReading) {layout : Layout} (tells : layout.Tells time) :
    ∃ instant, readBare? (layout.write time) = some instant ∧ time.IsShownAt instant := by
  cases layout with
  | mail style minusZero => exact readBare?_mail_write reading tells minusZero
  | internet style zone => exact readBare?_internet_write reading tells.1 tells.2
  | plain layout name => exact readBare?_plain_write reading tells.1 tells.2 layout name

/-- A date written in any layout, with white space around it and a comment behind it, is read as the
one instant at which a clock shows it. -/
theorem reads_every_layout (time : WrittenTime) (reading : time.IsReading) (layout : Layout)
    (tells : layout.Tells time) (surroundings : Surroundings) :
    ∃ instant, read? (surroundings.around (layout.write time)) = some instant ∧
      ∀ other, time.IsShownAt other ↔ other = instant := by
  obtain ⟨instant, found, shown⟩ := readBare?_write reading tells
  have bare := isBare_write reading layout
  have read : read? (surroundings.around (layout.write time)) =
      readBare? (withoutComment (Text.trim (surroundings.around (layout.write time)))) := rfl
  rw [surroundings.withoutComment_trim_around bare, found] at read
  refine ⟨instant, read, fun other => ?_⟩
  constructor
  · exact fun shownToo => shownToo.unique shown
  · rintro rfl
    exact shown

/-- A mail date with one digit for the day and with the name of its zone in a comment. -/
theorem reads_every_layout_newfoundland :
    ∃ instant, read? "\t Sat, 1 Mar 2014 12:00:05 -0330 (NST)\n".toList = some instant ∧
      ∀ other, WrittenTime.IsShownAt
        { date := { year := 2014, month := 3, day := 1 }, hour := 12, minute := 0, second := 5
          offsetMinutes := -210 } other ↔ other = instant := by
  obtain ⟨instant, found, only⟩ := reads_every_layout
    { date := { year := 2014, month := 3, day := 1 }, hour := 12, minute := 0, second := 5
      offsetMinutes := -210 }
    { date := by decide
      year := by decide
      hour := by decide
      minute := by decide
      second := by decide
      nanos := by decide
      offset := by decide }
    (.mail { weekday := true, dayWidth := 1, seconds := true } false)
    { dayWidth := by decide
      seconds := by decide
      nanos := rfl }
    { before := ['\t', ' '], gap := [], comment := some "NST".toList, after := ['\n']
      isBlank_before := by decide
      isBlank_gap := by decide
      isBlank_after := by decide
      isPlain_comment := by decide }
  exact ⟨instant, (congrArg read? (by decide +kernel)).trans found, only⟩

end Curator.PublicationDate
