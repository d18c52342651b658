import ScriptAudit.Syntax.Build
import ScriptAudit.Text.Blank

namespace ScriptAudit.Syntax

open Text (Parser Place)
open Text.Parser

def isSpace (c : Char) : Bool := Text.isBlank c || c.toNat == 0xFEFF

def isLineEnd (c : Char) : Bool := c == '\n' || c == '\r'

def toLineEnd : Parser Unit := do
  let _ ← takeWhile fun c => c != '\n'

def lineComment : Parser Unit := do
  exactly ['/', '/']
  let _ ← takeWhile fun c => !isLineEnd c

def commentEnd : List Char → Place → Option Place
  | [], _ => none
  | [_], _ => none
  | c :: d :: rest, place =>
    let place := place.behind c (d :: rest)
    if c == '*' && d == '/' then some (place.behind d rest) else commentEnd (d :: rest) place

def blockComment : Parser Unit := do
  exactly ['/', '*']
  fun place => (commentEnd place.rest place).map fun next => ((), next)

def comment : Parser SyntaxNode := do
  let start ← get
  lineComment <|> blockComment
  nodeFrom .comment start []

def directiveWord : Parser (List Char) := do
  exactly ['#']
  let _ ← takeWhile fun c => c == ' ' || c == '\t'
  takeSome Char.isAlpha

def plainDirectives : List String :=
  ["region", "endregion", "line", "pragma", "nullable", "error", "warning", "define", "undef"]

def plainDirective : Parser SyntaxNode := do
  let start ← get
  let name ← directiveWord
  if plainDirectives.contains (String.ofList name) then
    toLineEnd
    nodeFrom .directive start []
  else failure

def trivia : Parser (List SyntaxNode) := do
  let _ ← takeWhile isSpace
  many do
    let piece ← comment <|> plainDirective
    let _ ← takeWhile isSpace
    return piece

def skipTrivia : Parser Unit := do
  let _ ← trivia

end ScriptAudit.Syntax
