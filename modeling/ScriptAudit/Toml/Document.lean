import ScriptAudit.Toml.Scalar

namespace ScriptAudit.Toml

open Text (Parser)
open Text.Parser

def arrayOf (value : Parser TomlValue) : Parser TomlValue := do
  exactly ['[']
  gap
  let first ← orNone value
  let others ← many do
    gap
    exactly [',']
    gap
    value
  gap
  if first.isSome then
    let _ ← orNone (exactly [','])
    gap
  else if !others.isEmpty then failure
  exactly [']']
  return .array (first.toList ++ others)

def pairOf (value : Parser TomlValue) : Parser ((List String × String) × TomlValue) := do
  let name ← key
  exactly ['=']
  blanks
  return (name, ← value)

-- A table on one line, to which nothing outside can add.
def inlineTableOf (value : Parser TomlValue) : Parser TomlValue := do
  exactly ['{']
  let pairs ← (do return (← orNone (do
    let first ← pairOf value
    blanks
    let others ← many do
      exactly [',']
      let pair ← pairOf value
      blanks
      return pair
    return first :: others)).getD [])
  blanks
  exactly ['}']
  fun place =>
    (pairs.foldlM (fun items ((path, last), content) => addPair path last content items) []).map
      fun items => (.table (freezeItems items), place)

def valueOfDepth : Nat → Parser TomlValue
  | 0 => scalar
  | depth + 1 => scalar <|> arrayOf (valueOfDepth depth) <|> inlineTableOf (valueOfDepth depth)

def value : Parser TomlValue := valueOfDepth depthLimit

inductive Line where
  | pair (path : List String) (last : String) (content : TomlValue)
  | header (path : List String) (last : String)
  | element (path : List String) (last : String)
deriving Repr

def elementHeader : Parser Line := do
  exactly ['[', '[']
  let (path, last) ← key
  exactly [']', ']']
  return .element path last

def tableHeader : Parser Line := do
  exactly ['[']
  let (path, last) ← key
  exactly [']']
  return .header path last

def pairLine : Parser Line := do
  let ((path, last), content) ← pairOf value
  return .pair path last content

def line : Parser (Option Line) := do
  blanks
  let content ← orNone (elementHeader <|> tableHeader <|> pairLine)
  blanks
  let _ ← orNone comment
  return content

def lines : Parser (List Line) := do
  let _ ← orNone (exactly [Char.ofNat 0xFEFF])
  let first ← line
  let others ← many do
    lineBreak
    line
  if (← ahead).isEmpty then return (first :: others).filterMap id else failure

-- Adds a line to what has been read: the path of the table that is open, and all items.
def addLine (state : List String × Items) : Line → Option (List String × Items)
  | .pair path last content =>
    (descend (addPair path last content) state.1 state.2).map fun items => (state.1, items)
  | .header path last => (descend (openTable last) path state.2).map fun items => (path ++ [last], items)
  | .element path last =>
    (descend (openElement last) path state.2).map fun items => (path ++ [last], items)

def parse (text : String) : Option (List (String × TomlValue)) := do
  let (lines, _) ← lines (.ofText text.toList)
  let (_, items) ← lines.foldlM addLine ([], [])
  return freezeItems items

end ScriptAudit.Toml
