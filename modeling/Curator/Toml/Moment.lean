import Curator.Text.Scan
import Curator.Time.Calendar

/-! Dates and times of TOML. -/
namespace Curator.Toml.Moment

/-- Take a number of two digits up to a greatest one. -/
def upTo (greatest : Nat) : Scan Unit := do
  let value ← Scan.number 2 2
  if value ≤ greatest then return else failure

def date : Scan Unit := do
  let year ← Scan.number 4 4
  Scan.exactly '-'
  let month ← Scan.number 2 2
  Scan.exactly '-'
  let day ← Scan.number 2 2
  if Date.isValid { year, month, day } then return else failure

def fraction : Scan Unit := do
  Scan.exactly '.'
  if (← Scan.digits).isEmpty then failure

def time : Scan Unit := do
  upTo 23
  Scan.exactly ':'
  upTo 59
  Scan.exactly ':'
  upTo 60
  let _ ← Scan.optionally fraction

def offset : Scan Unit := do
  match ← Scan.next with
  | 'Z' | 'z' => return
  | '+' | '-' =>
    upTo 23
    Scan.exactly ':'
    upTo 59
  | _ => failure

def timeOfDate : Scan Unit := do
  match ← Scan.next with
  | 'T' | 't' | ' ' =>
    time
    let _ ← Scan.optionally offset
  | _ => failure

/-- Take a date with or without a time, or a time. -/
def moment : Scan Unit :=
  (do date; let _ ← Scan.optionally timeOfDate) <|> time

end Curator.Toml.Moment
