import Curator.Health.Store
import Curator.Text.Json
import Curator.Time.PlainDate

/-! Records kept as rows of a table with typed columns. What a cell holds when it is not as the
tracker writes it reads as absent, so that a damaged row never stops the tracker. -/
namespace Curator

inductive Cell where
  | null
  | integer (value : Int)
  | real (value : Binary64)
  | text (characters : List Char)
deriving DecidableEq, Repr

namespace Cell

def fits (value : Int) : Bool :=
  -9223372036854775808 ≤ value && value ≤ 9223372036854775807

/-- The integer that a floating number is, when it lies within the bounds of 64 bits. -/
def ofReal (number : Binary64) : Cell :=
  match number.toRational? with
  | some value =>
    if value.den = 1 ∧ -9223372036854775808 < value.num ∧ value.num < 9223372036854775807 then
      integer value.num
    else real number
  | none => real number

/-- White space around a number. -/
def isBlank (character : Char) : Bool :=
  character == ' ' || (9 ≤ character.toNat && character.toNat ≤ 13)

/-- The greatest exponent that matters: beyond it every number is zero or infinite. -/
def highestExponent : Nat := 10000

/-- An exponent: digits with or without a sign. -/
def readExponent? (text : List Char) : Option Int :=
  let (negative, digits) := match text with
    | '-' :: rest => (true, rest)
    | '+' :: rest => (false, rest)
    | text => (false, text)
  if digits.isEmpty || !digits.all Char.isDigit then none
  else
    let magnitude : Int := (min (Text.digitsValue 0 digits) highestExponent : Nat)
    some (if negative then -magnitude else magnitude)

/-- A number in decimal notation with an optional exponent. -/
def readNumber? (text : List Char) : Option Rat := do
  let (negative, text) := match text with
    | '-' :: rest => (true, rest)
    | '+' :: rest => (false, rest)
    | text => (false, text)
  let whole := text.takeWhile Char.isDigit
  let text := text.dropWhile Char.isDigit
  let (places, text) := match text with
    | '.' :: rest => (rest.takeWhile Char.isDigit, rest.dropWhile Char.isDigit)
    | text => ([], text)
  let (exponent, text) := match text with
    | 'e' :: rest | 'E' :: rest =>
      match readExponent? rest with
      | some exponent => (exponent, [])
      | none => ((0 : Int), text)
    | text => (0, text)
  if !text.isEmpty || (whole ++ places).isEmpty then none
  else
    let digits : Rat := (Text.digitsValue 0 (whole ++ places) : Nat)
    let scale : Int := exponent - places.length
    let magnitude :=
      if 0 ≤ scale then digits * (Nat.pow 10 scale.toNat : Nat)
      else digits / (Nat.pow 10 (-scale).toNat : Nat)
    return if negative then -magnitude else magnitude

/-- Whether a text is an integer by its form: digits with or without a sign. -/
def isIntegral (text : List Char) : Bool :=
  match text with
  | '-' :: digits | '+' :: digits => digits.all Char.isDigit
  | digits => digits.all Char.isDigit

/-- What a column of integers keeps of a value: numbers without a fraction become integers, however
they are written. Other forms than that of an integer stand for the nearest floating number. -/
def asInteger (cell : Cell) : Cell :=
  match cell with
  | real value => ofReal value
  | text characters =>
    let inner := ((characters.dropWhile isBlank).reverse.dropWhile isBlank).reverse
    match readNumber? inner with
    | some value =>
      if isIntegral inner && fits value.num then integer value.num
      else ofReal (Binary64.ofRational value)
    | none => cell
  | cell => cell

end Cell

structure StatusRow where
  sourceId : Int
  level : Cell
  initialFailure : Cell := .null
  mostRecentFailure : Cell := .null
  disabledUntil : Cell := .null
  lastContinuousSync : Cell := .null
  lastSyncMarker : Cell := .null
deriving DecidableEq, Repr

namespace ReleaseMarker

def renderMember (name : String) (value : List Char) : List Char :=
  Json.renderString name.toList ++ ':' :: value

/-- A name that may be missing, as a value. -/
def renderName : Option (List Char) → List Char
  | some name => Json.renderString name
  | none => "null".toList

def render (marker : ReleaseMarker) : List Char :=
  let date := Json.renderString (InternetDate.render marker.publishDate)
  '{' :: renderMember "guid" (renderName marker.guid) ++
    ',' :: renderMember "title" (Json.renderString marker.title) ++
    ',' :: renderMember "publish_date" date ++
    ['}']

def valuesOf (name : String) (members : List (Option (List Char) × Json)) : List Json :=
  (members.filter fun member => member.1 == some name.toList).map Prod.snd

def readName? : Json → Option (Option (List Char))
  | .null => some none
  | .string (some text) => some (some text)
  | _ => none

def ofValues? : Json → Json → Json → Option ReleaseMarker
  | guid, .string (some title), .string (some date) => do
    return { guid := ← readName? guid, title, publishDate := ← InternetDate.readLeniently? date }
  | _, _, _ => none

/-- A marker as it is written into a cell. The members come in any order, none of the three twice,
and others do not count; a list of the three values will do. -/
def ofJson? : Json → Option ReleaseMarker
  | .array [guid, title, date] => ofValues? guid title date
  | .object members =>
    if members.all (·.1.isSome) then
      match valuesOf "guid" members, valuesOf "title" members, valuesOf "publish_date" members with
      | [guid], [title], [date] => ofValues? guid title date
      | [], [title], [date] => ofValues? .null title date
      | _, _, _ => none
    else none
  | _ => none

def read? (text : List Char) : Option ReleaseMarker :=
  (Json.read? text).bind ofJson?

end ReleaseMarker

namespace StatusRow

def writeTime : Option Timestamp → Cell
  | some instant => .text (InternetDate.renderNumeric instant)
  | none => .null

/-- The instant in a cell, in full or without a zone. -/
def readTime? : Cell → Option Timestamp
  | .text characters =>
    InternetDate.read? characters <|> PlainDate.read? .yearFirst characters
  | _ => none

def writeMarker : Option ReleaseMarker → Cell
  | some marker => .text marker.render
  | none => .null

def readLevel : Cell → Nat
  | .integer value => if 0 ≤ value ∧ value ≤ 4294967295 then min value.toNat highestLevel else 0
  | _ => 0

def readMarker? : Cell → Option ReleaseMarker
  | .text characters => ReleaseMarker.read? characters
  | _ => none

def ofStatus (status : SourceStatus) : StatusRow where
  sourceId := status.sourceId
  level := .integer status.level
  initialFailure := writeTime status.initialFailure
  mostRecentFailure := writeTime status.mostRecentFailure
  disabledUntil := writeTime status.disabledUntil
  lastContinuousSync := writeTime status.lastContinuousSync
  lastSyncMarker := writeMarker status.lastSyncMarker

def toStatus (row : StatusRow) : SourceStatus where
  sourceId := row.sourceId
  level := readLevel row.level
  initialFailure := readTime? row.initialFailure
  mostRecentFailure := readTime? row.mostRecentFailure
  disabledUntil := readTime? row.disabledUntil
  lastContinuousSync := readTime? row.lastContinuousSync
  lastSyncMarker := readMarker? row.lastSyncMarker

end StatusRow

/-- The number of a new row for which a cell is written. A row without one follows the last row; no
other value than an integer will do. -/
def StatusRow.number? (rows : List StatusRow) (cell : Cell) : Option Int :=
  match cell.asInteger with
  | .integer value => some value
  | .null => some (((rows.getLast?).map (·.sourceId + 1)).getD 1)
  | _ => none

namespace StatusRow

/-- An earlier row with every cell but the number written over. -/
def writeOver (row earlier : StatusRow) : StatusRow :=
  { earlier with
    level := row.level
    initialFailure := row.initialFailure
    mostRecentFailure := row.mostRecentFailure
    disabledUntil := row.disabledUntil
    lastContinuousSync := row.lastContinuousSync
    lastSyncMarker := row.lastSyncMarker }

/-- Insert a row, or write over the row that has its number. -/
def upsert (row : StatusRow) : List StatusRow → List StatusRow
  | [] => [row]
  | first :: rest =>
    if row.sourceId < first.sourceId then row :: first :: rest
    else if row.sourceId = first.sourceId then row.writeOver first :: rest
    else first :: row.upsert rest

end StatusRow

/-- Records kept as rows by increasing source id. -/
def StatusStore.table : StatusStore (List StatusRow) where
  get id :=
    return ((← getThe (List StatusRow)).find? (·.sourceId == id)).map StatusRow.toStatus
  upsert status := modify (StatusRow.ofStatus status).upsert
  all := return (← getThe (List StatusRow)).map StatusRow.toStatus

end Curator
