import Curator.Health.RecordFile
import Curator.Text.Utf8

/-! Rows of records in a database file. The file is cut into pages of one size. A table is a tree of
pages with its rows in the leaves, and a row that is too long for its page goes on in a chain of
others. -/
namespace Curator

structure Database where
  bytes : ByteArray
  /-- The version that users of the file noted in it. -/
  version : Int
  pageSize : Nat
  /-- How many bytes of a page are in use for data. -/
  usable : Nat

namespace Database

/-- The number that bytes stand for, the greatest place first. -/
def bigEndian (bytes : List UInt8) : Nat :=
  bytes.foldl (fun value byte => value * 256 + byte.toNat) 0

/-- The number that bytes stand for as a complement of two. -/
def signed (bytes : List UInt8) : Int :=
  let value := bigEndian bytes
  let range := Nat.pow 256 bytes.length
  if value * 2 < range then value else (value : Int) - range

/-- A number of varying length: seven bits a byte, and eight in the ninth. -/
def varint? (count value : Nat) : List UInt8 → Option (Nat × List UInt8)
  | [] => none
  | byte :: rest =>
    if count = 8 then some (value * 256 + byte.toNat, rest)
    else if byte < 128 then some (value * 128 + byte.toNat, rest)
    else varint? (count + 1) (value * 128 + (byte.toNat - 128)) rest

def slice (database : Database) (start count : Nat) : List UInt8 :=
  (database.bytes.extract start (start + count)).toList

def magic : List UInt8 :=
  "SQLite format 3\x00".toUTF8.toList

def ofBytes? (bytes : ByteArray) : Option Database :=
  let header := (bytes.extract 0 100).toList
  if header.take 16 == magic ∧ header.length = 100 then
    let size := bigEndian ((header.drop 16).take 2)
    let pageSize := if size = 1 then 65536 else size
    some
      { bytes, version := signed ((header.drop 60).take 4), pageSize
        usable := pageSize - ((header.drop 20).headD 0).toNat }
  else none

def pageCount (database : Database) : Nat :=
  database.bytes.size / max database.pageSize 1

/-- Where a page begins. Pages are counted from one. -/
def pageStart (database : Database) (page : Nat) : Nat :=
  (page - 1) * database.pageSize

/-- The first `count` bytes of a chain of at most `links` pages. Each begins with the number of the
next. -/
def chain (database : Database) (page count : Nat) : (links : Nat) → List UInt8
  | 0 => []
  | links + 1 =>
    if count = 0 then []
    else
      let start := database.pageStart page
      let taken := min count (database.usable - 4)
      database.slice (start + 4) taken ++
        chain database (bigEndian (database.slice start 4)) (count - taken) links

/-- How many bytes of a row with `count` bytes lie on its own page. -/
def localCount (database : Database) (count : Nat) : Nat :=
  let most := database.usable - 35
  if count ≤ most then count
  else
    let least := (database.usable - 12) * 32 / 255 - 23
    let fitted := least + (count - least) % (database.usable - 4)
    if fitted ≤ most then fitted else least

def rowBytes (database : Database) (count : Nat) (data : List UInt8) : List UInt8 :=
  let own := database.localCount count
  if own = count then data.take count
  else
    let rest := data.drop own
    data.take own ++
      database.chain (bigEndian (rest.take 4)) (count - own) database.pageCount

def cellSize (kind : Nat) : Nat :=
  if kind < 12 then [0, 1, 2, 3, 4, 6, 8, 8, 0, 0, 0, 0].getD kind 0 else (kind - 12) / 2

/-- The cell of a kind. Bytes that are no text count as nothing. -/
def cell (kind : Nat) (bytes : List UInt8) : Cell :=
  if kind = 0 then .null
  else if kind < 7 then .integer (signed bytes)
  else if kind = 7 then .real (.ofBits (bigEndian bytes).toUInt64)
  else if kind < 10 then .integer (kind - 8)
  else if 12 ≤ kind ∧ kind % 2 = 1 then .text (Text.decodeUtf8Lossy bytes)
  else .null

/-- The kinds of the cells, as the head of a row tells them; there are at most `limit`. -/
def kinds : (limit : Nat) → List UInt8 → List Nat
  | 0, _ => []
  | limit + 1, bytes =>
    match varint? 0 0 bytes with
    | some (kind, rest) => kind :: kinds limit rest
    | none => []

def cells : List Nat → List UInt8 → List Cell
  | [], _ => []
  | kind :: kinds, bytes =>
    cell kind (bytes.take (cellSize kind)) :: cells kinds (bytes.drop (cellSize kind))

def rowCells (bytes : List UInt8) : List Cell :=
  match varint? 0 0 bytes with
  | some (size, rest) =>
    let head := rest.take (size - (bytes.length - rest.length))
    cells (kinds head.length head) (bytes.drop size)
  | none => []

/-- The row at a place in the file, with its number. -/
def row? (database : Database) (start : Nat) : Option (Int × List Cell) := do
  let (count, rest) ← varint? 0 0 (database.slice start (database.usable + 22))
  let (number, data) ← varint? 0 0 rest
  let number : Int :=
    if number < 9223372036854775808 then number else (number : Int) - 18446744073709551616
  return (number, rowCells (database.rowBytes count data))

/-- Where the parts of a page begin, counted from the page. -/
def pointers (database : Database) (start count : Nat) : List Nat :=
  (List.range count).map fun index => bigEndian (database.slice (start + 2 * index) 2)

/-- The rows of the tree under a page, which has at most `levels` levels. -/
def tableRows (database : Database) (page : Nat) : (levels : Nat) → List (Int × List Cell)
  | 0 => []
  | levels + 1 =>
    let start := database.pageStart page
    let head := if page = 1 then start + 100 else start
    let count := bigEndian (database.slice (head + 3) 2)
    match database.slice head 1 with
    | [13] =>
      (database.pointers (head + 8) count).filterMap fun offset => database.row? (start + offset)
    | [5] =>
      ((database.pointers (head + 12) count).map fun offset =>
          bigEndian (database.slice (start + offset) 4)) ++
        [bigEndian (database.slice (head + 8) 4)]
      |>.flatMap fun child => database.tableRows child levels
    | _ => []

def levelLimit : Nat := 32

def tableRoot? (database : Database) (name : String) : Option Nat :=
  (database.tableRows 1 levelLimit).findSome? fun (_, cells) =>
    match cells with
    | .text kind :: .text found :: _ :: .integer root :: _ =>
      if kind == "table".toList && found == name.toList then some root.toNat else none
    | _ => none

def statusRow (number : Int) (cells : List Cell) : StatusRow :=
  let cell (index : Nat) := cells.getD index .null
  { sourceId := number, level := cell 1, initialFailure := cell 2, mostRecentFailure := cell 3
    disabledUntil := cell 4, lastContinuousSync := cell 5, lastSyncMarker := cell 6 }

/-- What a file with records holds. An empty file is a new one. -/
def recordFile? (bytes : ByteArray) : Option RecordFile :=
  if bytes.isEmpty then some {}
  else do
    let database ← ofBytes? bytes
    let rows := (database.tableRoot? RecordFile.tableName).map fun root =>
      (database.tableRows root levelLimit).map fun (number, cells) => statusRow number cells
    return { version := database.version, rows }

end Database

end Curator
