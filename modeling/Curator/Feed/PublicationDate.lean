import Curator.Time.MailDate
import Curator.Time.PlainDate

/-! When a feed item was published. Feeds write mail dates, internet dates and dates without a zone;
the layouts are tried in that order on the text without a comment at its end. -/
namespace Curator.PublicationDate

/-- Where the last comment begins: everything before the last blank with a parenthesis behind it. -/
def beforeLastComment? : List Char → Option (List Char)
  | [] => none
  | character :: rest =>
    match beforeLastComment? rest with
    | some front => some (character :: front)
    | none => if character = ' ' && rest.head? == some '(' then some [] else none

/-- Leave out a comment in parentheses at the end. -/
def withoutComment (text : List Char) : List Char :=
  if text.getLast? = some ')' then
    match beforeLastComment? text with
    | some front => Text.trimEnd front
    | none => text
  else text

/-- Leave out a last word of letters, whatever zone it names. -/
def withoutZoneName (text : List Char) : List Char :=
  match Text.splitLast? ' ' text with
  | some (front, word) =>
    if !word.isEmpty && word.all Char.isAlpha then Text.trimEnd front else text
  | none => text

/-- The layouts without a zone, in the order in which they are tried. -/
def plainLayouts : List PlainDate.Layout :=
  [.weekdayFirst, .dayFirst, .yearFirst, .yearFirstLetter]

def read? (text : List Char) : Option Timestamp :=
  let date := withoutComment (Text.trim text)
  MailDate.read? date <|> InternetDate.read? date <|>
    plainLayouts.findSome? fun layout => PlainDate.read? layout (withoutZoneName date)

end Curator.PublicationDate
