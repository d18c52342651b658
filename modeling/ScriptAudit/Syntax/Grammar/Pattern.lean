import ScriptAudit.Syntax.Grammar.Operand

namespace ScriptAudit.Syntax

open Text (Parser Place)
open Text.Parser

-- The level of the operators in a constant: those that bind closer than comparisons.
def constantLevel : Nat := 11

def delimitedLevel : Nat := 3

def constantPattern (rules : Rules) : Parser SyntaxNode := do
  nodeOver .pattern (← rules (.expression constantLevel false)) []

def delimitedPattern (rules : Rules) (closing : List String) : Parser SyntaxNode :=
  (do
    let pattern ← rules .pattern
    endsHere
    return pattern) <|>
  (do
    let value ← rules (.expression delimitedLevel false)
    endsHere
    nodeOver .pattern value [])
where
  endsHere : Parser Unit := do
    if (← keywordAhead "when") || closing.contains (← markAhead) then return else failure

def designationTree (depth : Nat) : Parser SyntaxNode :=
  match depth with
  | 0 => failure
  | depth + 1 =>
    designation <|> do
      let start ← startHere
      let parts ← inParentheses (separated (designationTree depth))
      nodeFrom .pattern start parts

def designations : Parser SyntaxNode := do
  designationTree ((← ahead).length + 1)

def varPattern : Parser SyntaxNode := do
  let start ← startHere
  keyword "var"
  nodeFrom .pattern start [← designations]

def comparisonPattern (rules : Rules) : Parser SyntaxNode := do
  let start ← startHere
  let _ ← anyMarkOf ["<", "<=", ">", ">="]
  nodeFrom .pattern start [← rules (.expression constantLevel false)]

def subpatternName (rules : Rules) : Parser Unit := do
  let _ ← qualifiedTypeName rules
  mark ":"

def subpattern (rules : Rules) : Parser SyntaxNode := do
  let _ ← orNone (subpatternName rules)
  delimitedPattern rules [",", ")", "\x7d"]

def propertyClause (rules : Rules) : Parser (List SyntaxNode) := inBraces (trailing (subpattern rules))

def positionClause (rules : Rules) : Parser (List SyntaxNode) := inParentheses do
  return (← orNone (separated (subpattern rules))).getD []

def partsPattern (rules : Rules) : Parser (List SyntaxNode) := do
  let positions ← orNone (positionClause rules)
  let properties ← orNone (propertyClause rules)
  if positions.isNone && properties.isNone then failure
  let name ← orNone designations
  return positions.getD [] ++ properties.getD [] ++ name.toList

def listPattern (rules : Rules) : Parser SyntaxNode := do
  let start ← startHere
  let elements ← between "[" "]" (trailing (slicePattern <|> delimitedPattern rules [",", "]"]))
  let name ← orNone designation
  nodeFrom .pattern start (elements ++ name.toList)
where
  slicePattern : Parser SyntaxNode := do
    let start ← startHere
    mark ".."
    nodeFrom .pattern start (← orNone (rules .pattern)).toList

-- Whether a pattern may end here: nothing follows that would go on with an expression.
def patternMayEnd : Parser Unit := do
  let next ← markAhead
  if ["+", "-", "*", "/", "%", "<<", ">>", ".", "(", "[", "::", "->", "!", "++", "--"].contains next then failure
  else
    let text ← wordAhead
    if text.isEmpty || operandEnders.contains text || ["is", "as", "switch", "in"].contains text then return
    else failure

-- A name with arguments alone is a constant and no type with parts by position.
def callPattern (rules : Rules) : Parser SyntaxNode := do
  let value ← rules (.expression constantLevel false)
  if value.kind != .invocation || (← markAhead) == "\x7b" then failure
  patternMayEnd
  nodeOver .pattern value []

def typedPattern (rules : Rules) : Parser SyntaxNode := do
  let start ← startHere
  let type ← testedType rules
  let parts ← (do return [← designation]) <|> do
    let parts ← partsPattern rules
    patternMayEnd
    return parts
  nodeFrom .pattern start (type :: parts)

def bareTypePattern (rules : Rules) : Parser SyntaxNode := do
  let type ← testedType rules
  if type.kind == .type then
    patternMayEnd
    nodeOver .pattern type []
  else failure

def untypedParts (rules : Rules) : Parser SyntaxNode := do
  let start ← startHere
  let parts ← partsPattern rules
  patternMayEnd
  nodeFrom .pattern start parts

def patternOperand (rules : Rules) : Parser SyntaxNode :=
  varPattern <|> comparisonPattern rules <|> untypedParts rules <|> listPattern rules <|>
    callPattern rules <|> typedPattern rules <|> bareTypePattern rules <|> constantPattern rules

def negatable (rules : Rules) : Parser SyntaxNode :=
  (do
    let start ← startHere
    let _ ← oneOrMore (keyword "not")
    nodeFrom .pattern start [← patternOperand rules]) <|>
  patternOperand rules

def joined (joiner : String) (p : Parser SyntaxNode) : Parser SyntaxNode := do
  extend (fun left => do
    keyword joiner
    nodeOver .pattern left [← p]) (← p)

def patternPhrase (rules : Rules) : Parser SyntaxNode := joined "or" (joined "and" (negatable rules))

end ScriptAudit.Syntax
