import ScriptAudit.Syntax.Grammar.TypeName

namespace ScriptAudit.Syntax

open Text (Parser Place)
open Text.Parser

-- Words that are operators or clauses behind an operand, and so do not name a variable there.
def operandEnders : List String :=
  ["with", "and", "or", "when", "select", "where", "orderby", "group", "join", "let", "into", "on", "equals",
    "by", "ascending", "descending"]

def designation : Parser SyntaxNode := do
  if operandEnders.contains (← wordAhead) then failure
  else identifier

def declaredArgument (rules : Rules) : Parser SyntaxNode := do
  if ← keywordAhead "await" then failure
  let type ← rules .type
  let name ← designation
  if [",", ")", "]"].contains (← markAhead) then nodeOver .otherExpression type [name] else failure

def argumentName : Parser Unit := do
  let _ ← identifier
  mark ":"

def argument (rules : Rules) : Parser SyntaxNode := do
  let start ← startHere
  let named ← orNone argumentName
  let passing ← orNone (anyKeyword ["ref", "out", "in"])
  let value ← declaredArgument rules <|> rules.value
  if named.isNone && passing.isNone && value.kind != .otherExpression then return value
  else nodeFrom .argument start [value]

def arguments (rules : Rules) : Parser SyntaxNode := do
  let start ← startHere
  let values ← inParentheses do
    return (← orNone (separated (argument rules))).getD []
  nodeFrom .arguments start values

def bracketedArguments (rules : Rules) : Parser SyntaxNode := do
  let start ← startHere
  let values ← between "[" "]" (trailing (argument rules))
  nodeFrom .arguments start values

def attributeArgument (rules : Rules) : Parser SyntaxNode := do
  let _ ← orNone do
    let _ ← identifier
    mark ":"
  rules.value

def attributeUse (rules : Rules) : Parser SyntaxNode := do
  let name ← qualifiedTypeName rules
  let values ← orNone (inParentheses (trailing (attributeArgument rules)))
  nodeOver .attributes name (values.getD [])

def attributeTarget : Parser Unit := do
  let _ ← word
  mark ":"

def attributeList (rules : Rules) : Parser SyntaxNode := do
  let start ← startHere
  mark "["
  let _ ← orNone attributeTarget
  let attributes ← separated (attributeUse rules)
  let _ ← orNone (mark ",")
  mark "]"
  nodeFrom .attributes start attributes

def attributeLists (rules : Rules) : Parser (List SyntaxNode) :=
  many (attributeList rules <|> region (attributeList rules))

def parameterModifiers : List String := ["this", "scoped", "ref", "out", "in", "readonly", "params"]

-- A parameter modifier; a word that is also a name is one only in front of a further word.
def parameterModifier : Parser Unit := do
  let text ← anyKeyword parameterModifiers
  if text != "scoped" then return
  else
    let next ← peek do
      let _ ← word
      word
    if next.isSome then return else failure

def parameterDefault (rules : Rules) : Parser (List SyntaxNode) := do
  let value ← orNone do
    mark "="
    rules.value
  return value.toList

def typedParameter (rules : Rules) : Parser SyntaxNode := do
  let start ← startHere
  let attributes ← attributeLists rules
  let _ ← many parameterModifier
  let type ← rules .type
  let name ← identifier
  nodeFrom .parameter start (attributes ++ type :: name.inField .name :: (← parameterDefault rules))

def untypedParameter (rules : Rules) : Parser SyntaxNode := do
  let start ← startHere
  let attributes ← attributeLists rules
  let _ ← many parameterModifier
  let name ← identifier
  nodeFrom .parameter start (attributes ++ name.inField .name :: (← parameterDefault rules))

def parameterList (opening closing : String) (p : Parser SyntaxNode) : Parser SyntaxNode := do
  let start ← startHere
  let parameters ← between opening closing do
    return (← orNone (separated p)).getD []
  nodeFrom .parameters start parameters

def parameters (rules : Rules) : Parser SyntaxNode := parameterList "(" ")" (typedParameter rules)

def lambdaParameters (rules : Rules) : Parser SyntaxNode :=
  parameterList "(" ")" (typedParameter rules <|> untypedParameter rules)

def typeParameter (rules : Rules) : Parser SyntaxNode := do
  let start ← startHere
  let attributes ← attributeLists rules
  let _ ← orNone (anyKeyword ["in", "out"])
  let name ← identifier
  nodeFrom .typeParameters start (attributes ++ [name])

def typeParameters (rules : Rules) : Parser SyntaxNode := do
  let start ← startHere
  mark "<"
  let parameters ← separated (typeParameter rules)
  bareMark '>'
  nodeFrom .typeParameters start parameters

def constraintPart (rules : Rules) : Parser SyntaxNode := do
  let start ← startHere
  (do
    keyword "class"
    let _ ← orNone (mark "?")
    nodeFrom .constraint start []) <|>
  (do
    let _ ← anyKeyword ["struct", "default"]
    nodeFrom .constraint start []) <|>
  (do
    keyword "new"
    mark "("
    mark ")"
    nodeFrom .constraint start []) <|>
  rules .type

def constraints (rules : Rules) : Parser (List SyntaxNode) := many do
  let start ← startHere
  keyword "where"
  let name ← identifier
  mark ":"
  let parts ← separated (constraintPart rules)
  nodeFrom .constraint start (name :: parts)

end ScriptAudit.Syntax
