import ScriptAudit.Syntax.Token

namespace ScriptAudit.Syntax

open Text (Parser Place)
open Text.Parser

-- An expression has a least level of the operators it may hold outside brackets, and may or may not be a
-- lambda there.
inductive Phrase where
  | type
  | expression (least : Nat) (arrows : Bool)
  | pattern
  | statement
  | member
  | item
deriving DecidableEq, Repr

abbrev Rules := Phrase → Parser SyntaxNode

def Rules.value (rules : Rules) : Parser SyntaxNode := rules (.expression 0 true)

def separated {α : Type} (p : Parser α) : Parser (List α) := do
  let first ← p
  let others ← many do
    mark ","
    p
  return first :: others

def trailing {α : Type} (p : Parser α) : Parser (List α) := do
  match ← orNone (separated p) with
  | none => return []
  | some parts =>
    let _ ← orNone (mark ",")
    return parts

def between {α : Type} (opening closing : String) (p : Parser α) : Parser α := do
  mark opening
  let inner ← p
  mark closing
  return inner

def inBraces {α : Type} (p : Parser α) : Parser α := between "\x7b" "\x7d" p

def inParentheses {α : Type} (p : Parser α) : Parser α := between "(" ")" p

def startHere : Parser Place := do
  skipTrivia
  get

def branchDirective (name : String) : Parser Unit := do
  skipTrivia
  if String.ofList (← directiveWord) == name then return else failure

-- Parts of all branches of a region between `#if` and `#endif`, with whatever stands in them.
def branches {α : Type} (p : Parser α) : Parser (List α) := do
  branchDirective "if"
  toLineEnd
  let first ← many p
  let others ← many do
    (do branchDirective "elif"; toLineEnd) <|> branchDirective "else"
    many p
  branchDirective "endif"
  return first ++ others.flatten

def region (p : Parser SyntaxNode) : Parser SyntaxNode := do
  let start ← startHere
  nodeFrom .conditionalRegion start (← branches p)

end ScriptAudit.Syntax
