import ScriptAudit.Text.Parser
import ScriptAudit.Xml.Event

namespace ScriptAudit.Xml

open Text (Parser)
open Text.Parser

def trim (text : List Char) : List Char :=
  ((text.dropWhile isBlank).reverse.dropWhile isBlank).reverse

def nameOf (tag : List Char) : List Char := tag.takeWhile fun c => !isBlank c

def localName (name : List Char) : List Char :=
  if name.contains ':' then (name.dropWhile (· != ':')).drop 1 else name

def splitAt (mark : List Char) : List Char → Option (List Char × List Char)
  | [] => none
  | c :: rest =>
    if mark.isPrefixOf (c :: rest) then some ([], (c :: rest).drop mark.length)
    else (splitAt mark rest).map fun found => (c :: found.1, found.2)

def upTo (mark : List Char) : Parser (List Char) := do
  match splitAt mark (← ahead) with
  | none => failure
  | some (before, _) =>
    exactly before
    exactly mark
    return before

-- The end of a tag, outside the quotes of its attributes.
def tagRest (quote : Option Char) : List Char → Option (List Char)
  | [] => none
  | c :: rest =>
    match quote with
    | some opening => (tagRest (if c == opening then none else quote) rest).map (c :: ·)
    | none =>
      if c == '>' then some []
      else (tagRest (if c == '"' || c == '\'' then some c else none) rest).map (c :: ·)

def tag : Parser (List Char) := do
  match tagRest none (← ahead) with
  | none => failure
  | some content =>
    exactly content
    exactly ['>']
    return content

def startTag : Parser XmlEvent := do
  let content ← tag
  if content.getLast? == some '/' then return .emptyElement (nameOf content.dropLast)
  else return .opening (nameOf content)

def endTag : Parser XmlEvent := do
  exactly ['/']
  let content ← tag
  return .closing (content.reverse.dropWhile isBlank).reverse

def comment : Parser XmlEvent := do
  exactly ['!', '-', '-']
  let _ ← upTo ['-', '-', '>']
  return .other

def characterData : Parser XmlEvent := do
  exactly "![CDATA[".toList
  return .characterData (← upTo [']', ']', '>'])

def typeRest (nesting : Nat) : List Char → Option (List Char)
  | [] => none
  | c :: rest =>
    if c == '<' then (typeRest (nesting + 1) rest).map (c :: ·)
    else if c == '>' then
      match nesting with
      | 0 => some []
      | nesting + 1 => (typeRest nesting rest).map (c :: ·)
    else (typeRest nesting rest).map (c :: ·)

def documentType : Parser XmlEvent := do
  exactly ['!']
  match typeRest 0 (← ahead) with
  | none => failure
  | some content =>
    exactly content
    exactly ['>']
    let isType := (content.take 7).map Char.toLower == "doctype".toList
    if isType && !(content.drop 7).all isBlank then return .other else failure

def instruction : Parser XmlEvent := do
  exactly ['?']
  if (← ahead).head? == some '>' then failure
  let _ ← upTo ['?', '>']
  return .other

def markup : Parser XmlEvent := do
  exactly ['<']
  match (← ahead).head? with
  | some '/' => endTag
  | some '!' => comment <|> characterData <|> documentType
  | some '?' => instruction
  | _ => startTag

def textPiece : Parser XmlEvent := do
  return .text (trim (← takeSome (· != '<')))

-- The events in front of the first closing tag that has not the name of the last element that is open. Elements may
-- stay open, and there may be any number of roots.
def nested : List (List Char) → List XmlEvent → List XmlEvent
  | _, [] => []
  | opened, .opening name :: rest => .opening name :: nested (name :: opened) rest
  | [], .closing _ :: _ => []
  | last :: opened, .closing name :: rest => if last == name then .closing name :: nested opened rest else []
  | opened, event :: rest => event :: nested opened rest

def document : Parser XmlReading := do
  let _ ← orNone (exactly [Char.ofNat 0xFEFF])
  let events ← many (markup <|> textPiece)
  let kept := nested [] events
  return ⟨kept.filter (· != .text []), kept.length == events.length && (← ahead).isEmpty⟩

def read (text : List Char) : XmlReading :=
  match document (.ofText text) with
  | none => ⟨[], false⟩
  | some (reading, _) => reading

def hexValue? (c : Char) : Option Nat :=
  if c.isDigit then some (c.toNat - '0'.toNat)
  else if 'a' ≤ c.toLower && c.toLower ≤ 'f' then some (c.toLower.toNat - 'a'.toNat + 10)
  else none

def numberOf (base : Nat) (digits : List Char) : Option Nat :=
  if digits.isEmpty then none
  else
    digits.foldlM (fun value digit => do
      let next ← hexValue? digit
      if next < base && value < UInt32.size then some (value * base + next) else none) 0

def numbered (digits : List Char) : Option Char := do
  let number ← match digits with
    | 'x' :: rest => numberOf 16 rest
    | _ => numberOf 10 digits
  if number != 0 && number.isValidChar then some (Char.ofNat number) else none

def entity (name : List Char) : Option Char :=
  match name with
  | '#' :: digits => numbered digits
  | _ =>
    match String.ofList name with
    | "lt" => some '<'
    | "gt" => some '>'
    | "amp" => some '&'
    | "quot" => some '"'
    | "apos" => some '\''
    | _ => none

-- A text with its entities replaced, where each is known and ends in a semicolon. The first argument is the name
-- of an entity that has been begun, the last character first.
def unescapeFrom : Option (List Char) → List Char → Option (List Char)
  | none, [] => some []
  | some _, [] => none
  | none, c :: rest =>
    if c == '&' then unescapeFrom (some []) rest else (unescapeFrom none rest).map (c :: ·)
  | some begun, c :: rest =>
    if c == '&' then none
    else if c == ';' then do
      let character ← entity begun.reverse
      return character :: (← unescapeFrom none rest)
    else unescapeFrom (some (c :: begun)) rest

def unescape (text : List Char) : Option (List Char) := unescapeFrom none text

def reader : XmlReader := ⟨read, unescape, localName⟩

end ScriptAudit.Xml
