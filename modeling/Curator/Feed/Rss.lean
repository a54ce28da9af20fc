import Curator.Markup.Document

/-! Channels and items of a feed. A feed is read as a whole: any text that has to be read and does
not decode makes the feed unreadable, even where its meaning is not used. -/
namespace Curator

abbrev FeedText := List Char

/-- Attributes of an element outside the format itself, under their full names. -/
abbrev ExtensionAttributes := List (FeedText × FeedText)

/-- An element outside the format itself. -/
structure Extension where
  /-- The namespace as it is written before the colon. -/
  space : FeedText
  name : FeedText
  attributes : ExtensionAttributes
deriving DecidableEq, Repr

structure FeedItem where
  title : Option FeedText := none
  link : Option FeedText := none
  description : Option FeedText := none
  comments : Option FeedText := none
  publicationDate : Option FeedText := none
  /-- The item's own name; an empty element gives the empty text. -/
  guid : Option FeedText := none
  /-- Where the enclosed file lies; without an address this is the empty text. -/
  enclosureUrl : Option FeedText := none
  extensions : List Extension := []
deriving DecidableEq, Repr

namespace Rss

open Markup

abbrev Namespaces := List (FeedText × FeedText)

def name? (element : Element) : Option FeedText :=
  element.name.text?

/-- The text of an element, absent when it is blank. -/
def text? (element : Element) : Option (Option FeedText) :=
  (Element.text? element.contents).map fun text => if text.isEmpty then none else some text

/-- The values of the attributes with the wanted names. The names of all must decode. -/
def attributes? (isWanted : FeedText → Bool) (element : Element) :
    Option (List (FeedText × FeedText)) := do
  let read ← element.attributes.mapM fun entry => do
    let name ← entry.name? element.tag.encoding
    if isWanted name then return some (name, ← entry.value? element.tag.encoding) else return none
  return read.filterMap id

/-- The first attribute with a name, if there is one. The names before it must decode; what
follows it does not matter. -/
def firstAttribute? (encoding : Encoding) (wanted : String) :
    List Attribute → Option (Option Attribute)
  | [] => some none
  | entry :: rest => do
    if (← entry.name? encoding) = wanted.toList then return some entry
    else firstAttribute? encoding wanted rest

/-- The value of the first attribute with a name, if there is one. -/
def firstValue? (wanted : String) (element : Element) : Option (Option FeedText) := do
  match ← firstAttribute? element.tag.encoding wanted element.attributes with
  | some entry => return some (← entry.value? element.tag.encoding)
  | none => return none

/-- The last value under a name. -/
def lastValue? (name : String) (values : List (FeedText × FeedText)) : Option FeedText :=
  (values.reverse.find? (·.1 == name.toList)).map Prod.snd

/-- The namespaces that an element declares, before those that are known. -/
def namespaces? (element : Element) (known : Namespaces) : Option Namespaces := do
  let declared ← attributes? (Text.startsWith · "xmlns:".toList) element
  return (declared.reverse.map fun (name, value) => (name.drop 6, value)) ++ known

/-- A name cut at its first colon, with something before it. -/
def splitName? (name : FeedText) : Option (FeedText × FeedText) :=
  match Text.splitFirst? ':' name with
  | some ([], _) | none => none
  | some split => some split

def extensionAttributes? (element : Element) : Option ExtensionAttributes :=
  attributes? (fun _ => true) element

/-- Whether everything in an element outside the format can be read. Names are read where their
elements end. -/
def isReadable (contents : List Part) : Bool :=
  (Element.text? contents).isSome && contents.attach.all fun
    | ⟨.element tag inner ending, _⟩ =>
      let element : Element := { tag, contents := inner, ending }
      element.endName.text?.isSome && (extensionAttributes? element).isSome && isReadable inner
    | _ => true
termination_by sizeOf contents
decreasing_by
  rename_i member
  have smaller := List.sizeOf_lt_of_mem member
  simp only [Part.element.sizeOf_spec] at smaller
  omega

/-- The attributes of an element outside the format, if all of it can be read. -/
def readExtension? (element : Element) : Option ExtensionAttributes :=
  if element.endName.text?.isSome && isReadable element.contents then extensionAttributes? element
  else none

/-- The namespaces whose elements have a meaning of their own. The first may be written in any
case. -/
def isReserved (namespaces : Namespaces) (space : FeedText) : Bool :=
  match namespaces.lookup space with
  | some uri =>
    Text.equalsIgnoringCase uri "http://www.itunes.com/dtds/podcast-1.0.dtd".toList ||
      uri = "http://purl.org/dc/elements/1.1/".toList
  | none => false

/-- The item with an element outside the format, unless its namespace has a meaning of its own. -/
def addExtension? (namespaces : Namespaces) (item : FeedItem) (space name : FeedText)
    (element : Element) : Option FeedItem := do
  let namespaces ← namespaces? element namespaces
  let attributes ← readExtension? element
  if isReserved namespaces space then return item
  else return { item with extensions := item.extensions ++ [{ space, name, attributes }] }

def addToItem? (namespaces : Namespaces) (item : FeedItem) (element : Element) :
    Option FeedItem := do
  let name ← name? element
  match String.ofList name with
  | "title" => return { item with title := ← text? element }
  | "description" => return { item with description := ← text? element }
  | "comments" => return { item with comments := ← text? element }
  | "pubDate" => return { item with publicationDate := ← text? element }
  | "link" =>
    match ← text? element with
    | some link => return { item with link := some link }
    | none => return item
  | "guid" =>
    let _ ← firstAttribute? element.tag.encoding "isPermaLink" element.attributes
    return { item with guid := some ((← text? element).getD []) }
  | "enclosure" =>
    let values ← attributes? (["url", "length", "type"].map String.toList).contains element
    return { item with enclosureUrl := some ((lastValue? "url" values).getD []) }
  | "category" =>
    let _ ← firstValue? "domain" element
    let _ ← text? element
    return item
  | "source" =>
    let _ ← firstValue? "url" element
    let _ ← text? element
    return item
  | "author" | "content:encoded" =>
    let _ ← text? element
    return item
  | _ =>
    match splitName? name with
    | none => return item
    | some (space, name) => addExtension? namespaces item space name element

def item? (namespaces : Namespaces) (element : Element) : Option FeedItem := do
  let namespaces ← namespaces? element namespaces
  (Element.children element.contents).foldlM (addToItem? namespaces) {}

def channelTexts : List String :=
  ["title", "link", "description", "language", "copyright", "managingEditor", "webMaster",
    "pubDate", "lastBuildDate", "generator", "rating", "docs", "ttl"]

/-- The elements in elements of a channel of which the text is read. -/
def nestedTexts : List (String × List String) :=
  [("image", ["url", "title", "link", "width", "height", "description"]),
    ("textInput", ["title", "description", "name", "link"]), ("skipHours", ["hour"]),
    ("skipDays", ["day"])]

/-- The attributes of the element that tells where changes are announced. -/
def cloudAttributes : List FeedText :=
  ["domain", "port", "path", "registerProcedure", "protocol"].map String.toList

/-- Whether the elements in an element can be read, as far as they are. -/
def hasReadableTexts (wanted : List String) (element : Element) : Bool :=
  (Element.children element.contents).all fun child =>
    match name? child with
    | none => false
    | some name => !wanted.any (·.toList == name) || (text? child).isSome

/-- Whether an element of a channel that is no item can be read. -/
def isReadableInChannel (name : FeedText) (element : Element) : Bool :=
  let label := String.ofList name
  if channelTexts.contains label then (text? element).isSome
  else if label = "category" then
    (firstValue? "domain" element).isSome && (text? element).isSome
  else if label = "cloud" then (attributes? cloudAttributes.contains element).isSome
  else
    match nestedTexts.lookup label with
    | some wanted => hasReadableTexts wanted element
    | none => (splitName? name).isNone || (readExtension? element).isSome

/-- The items of a channel in order. -/
def channelItems? (namespaces : Namespaces) (element : Element) : Option (List FeedItem) := do
  let namespaces ← namespaces? element namespaces
  let items ← (Element.children element.contents).mapM fun child => do
    let name ← name? child
    if name = "item".toList then return some (← item? namespaces child)
    else if isReadableInChannel name child then return none
    else none
  return items.filterMap id

/-- What has been read of a feed: the items of its last channel, and those outside of channels. -/
structure Reading where
  channel : Option (List FeedItem) := none
  outside : List FeedItem := []

/-- The reading with what an element right in the feed says. -/
def addToFeed? (namespaces : Namespaces) (reading : Reading) (element : Element) :
    Option Reading := do
  match String.ofList (← name? element) with
  | "channel" => return { reading with channel := some (← channelItems? namespaces element) }
  | "item" => return { reading with outside := reading.outside ++ [← item? namespaces element] }
  | "image" =>
    if hasReadableTexts ((nestedTexts.lookup "image").getD []) element then return reading else none
  | "textinput" =>
    if hasReadableTexts ((nestedTexts.lookup "textInput").getD []) element then return reading
    else none
  | _ => return reading

/-- The items of a feed: those of its last channel, then those outside of channels. -/
def items? (octets : Octets) : Option (List FeedItem) := do
  let root ← Document.root? octets
  let name ← name? root
  if name = "rss".toList ∨ name = "rdf:RDF".toList then
    let namespaces ← namespaces? root []
    let reading ← (Element.children root.contents).foldlM (addToFeed? namespaces) {}
    return (← reading.channel) ++ reading.outside
  else none

end Rss

end Curator
