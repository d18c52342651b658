import ScriptAudit.Syntax.Grammar.Basic

namespace ScriptAudit.Syntax

open Text (Parser Place)
open Text.Parser

def holeInner (rules : Rules) : Parser (List SyntaxNode) := do
  let value ← rules.value
  let width ← orNone do
    mark ","
    rules.value
  let _ ← orNone do
    bareMark ':'
    takeWhile fun c => c != '}' && c != '"'
  return value :: width.toList

def hole (rules : Rules) (braces : Nat) : Parser SyntaxNode := do
  let start ← get
  exactly (List.replicate braces '{')
  let inner ← holeInner rules
  skipTrivia
  exactly (List.replicate braces '}')
  nodeFrom .otherExpression start inner

def textPiece (p : Parser Unit) : Parser (Option SyntaxNode) := do
  p
  return none

def doubled (c : Char) : Parser Unit := exactly [c, c]

def regularPiece (rules : Rules) : Parser (Option SyntaxNode) :=
  textPiece (doubled '{' <|> doubled '}' <|> escape <|> do
    let _ ← takeSome fun c => !(['"', '\\', '{', '}', '\n'].contains c)) <|>
  (do return some (← hole rules 1))

def verbatimPiece (rules : Rules) : Parser (Option SyntaxNode) :=
  textPiece (doubled '{' <|> doubled '}' <|> doubled '"' <|> do
    let _ ← takeSome fun c => !(['"', '{', '}'].contains c)) <|>
  (do return some (← hole rules 1))

-- Braces that are text: fewer than open a hole, or those in front of the ones that do.
def looseBraces (braces : Nat) : Parser Unit := do
  let run := (← peek (takeSome (· == '{'))).getD []
  if run.isEmpty then failure
  else if run.length < braces then exactly run
  else if braces < run.length then exactly (run.drop braces)
  else failure

def rawPiece (rules : Rules) (braces quotes : Nat) : Parser (Option SyntaxNode) :=
  textPiece (do
    let run ← takeSome (· == '"')
    if quotes ≤ run.length then failure) <|>
  textPiece (looseBraces braces) <|>
  textPiece (do let _ ← takeSome fun c => c != '"' && c != '{') <|>
  (do return some (← hole rules braces))

def interpolatedString (rules : Rules) : Parser SyntaxNode := do
  let start ← startHere
  let pieces ←
    (do
      let dollars ← takeSome (· == '$')
      let quotes ← takeSome (· == '"')
      if quotes.length < 3 then failure
      let pieces ← many (rawPiece rules dollars.length quotes.length)
      exactly quotes
      let _ ← takeWhile (· == '"')
      return pieces) <|>
    (do
      exactly ['$', '"']
      let pieces ← many (regularPiece rules)
      exactly ['"']
      return pieces) <|>
    (do
      exactly ['$', '@', '"'] <|> exactly ['@', '$', '"']
      let pieces ← many (verbatimPiece rules)
      exactly ['"']
      return pieces)
  encodingSuffix
  nodeFrom .interpolatedString start (pieces.filterMap id)

end ScriptAudit.Syntax
