import ScriptAudit.Syntax.Grammar.Comprehension
import ScriptAudit.Syntax.Grammar.Interpolation

namespace ScriptAudit.Syntax

open Text (Parser Place)
open Text.Parser

def unaryLevel : Nat := 17

def Rules.operand (rules : Rules) (arrows : Bool) : Parser SyntaxNode := rules (.expression unaryLevel arrows)

-- Whether generic arguments may end here: no operand follows them.
def genericMayEnd : Parser Unit := do
  skipTrivia
  let next ← wordAhead
  if next.isEmpty then
    match ← peek (char fun c => c.isDigit || ['"', '\'', '@', '$', '~', '\\'].contains c) with
    | none => return
    | some _ => failure
  else if ["is", "as", "switch", "in"].contains next || operandEnders.contains next then return
  else failure

-- A name in an expression. Angle brackets belong to it where they close as generic arguments.
def simpleName (rules : Rules) : Parser SyntaxNode := do
  let name ← identifier
  let generic ← orNone do
    let arguments ← typeArguments rules
    genericMayEnd
    return arguments
  match generic with
  | none => return name
  | some arguments => nodeOver .genericName name arguments

def name (rules : Rules) : Parser SyntaxNode := do
  let first ← simpleName rules
  match ← orNone (mark "::") with
  | none => return first
  | some _ => nodeOver .qualifiedName first [← simpleName rules]

def lambdaBody (rules : Rules) : Parser SyntaxNode := do
  mark "=>"
  if (← markAhead) == "\x7b" then rules .statement else rules.value

def lambdaHead (rules : Rules) : Parser (List SyntaxNode) := do
  let attributes ← attributeLists rules
  let _ ← many (anyKeyword ["async", "static"])
  let signature ← bare <|> withResult
  return attributes ++ signature
where
  arrowAhead : Parser Unit := do
    if (← markAhead) == "=>" then return else failure
  untypedName : Parser SyntaxNode := do
    let name ← identifier
    nodeOver .parameter (name.inField .name) []
  bare : Parser (List SyntaxNode) := do
    let parameters ← untypedName <|> lambdaParameters rules
    arrowAhead
    return [parameters]
  withResult : Parser (List SyntaxNode) := do
    let result ← rules .type
    let parameters ← lambdaParameters rules
    arrowAhead
    return [result, parameters]

def lambda (rules : Rules) : Parser SyntaxNode := do
  let start ← startHere
  let head ← lambdaHead rules
  nodeFrom .lambda start (head ++ [← lambdaBody rules])

def nameOrLambda (rules : Rules) (arrows : Bool) : Parser SyntaxNode :=
  (if arrows then lambda rules else failure) <|> name rules

def anonymousMethod (rules : Rules) : Parser SyntaxNode := do
  let start ← startHere
  let _ ← many (anyKeyword ["async", "static"])
  keyword "delegate"
  let parameters ← orNone (parameters rules)
  if (← markAhead) != "\x7b" then failure
  nodeFrom .lambda start (parameters.toList ++ [← rules .statement])

def initializerElement (rules : Rules) (nested : Parser SyntaxNode) : Parser SyntaxNode :=
  (do
    let target ← identifier <|> bracketedArguments rules
    mark "="
    if (← markAhead) != "\x7b" then failure
    nodeOver .assignment target [← nested]) <|>
  nested <|> rules.value

def initializerOfDepth (rules : Rules) : Nat → Parser SyntaxNode
  | 0 => failure
  | depth + 1 => do
    let start ← startHere
    let elements ← inBraces (trailing (initializerElement rules (initializerOfDepth rules depth)))
    nodeFrom .otherExpression start elements

-- Elements in braces, nested as deep as the text that is left allows.
def initializer (rules : Rules) : Parser SyntaxNode := do
  initializerOfDepth rules ((← ahead).length + 1)

def anonymousMember (rules : Rules) : Parser SyntaxNode := do
  let _ ← orNone do
    let _ ← identifier
    mark "="
  rules.value

def isArrayEnd (source : List Char) : Bool := source.getLast? == some ']'

def creationOfType (rules : Rules) : Parser (List SyntaxNode) := do
  let before ← ahead
  let type ← extend (typeSuffixes (sizedRank rules) arrayQuestion) (← typeHead rules)
  let after ← ahead
  let isArray := isArrayEnd (before.take (before.length - after.length))
  if isArray then
    return type :: (← orNone (initializer rules)).toList
  else
    let values ← orNone (arguments rules)
    let elements ← orNone (initializer rules)
    if values.isNone && elements.isNone then failure
    return type :: values.toList ++ elements.toList
where
  arrayQuestion : Parser Unit := do
    mark "?"
    if (← markAhead) == "[" then return else failure

def creation (rules : Rules) : Parser SyntaxNode := do
  let start ← startHere
  keyword "new"
  let parts ←
    match ← markAhead with
    | "\x7b" => inBraces (trailing (anonymousMember rules))
    | "[" =>
      let _ ← openRank
      pure [← initializer rules]
    | "(" =>
      (do
        let values ← arguments rules
        return values :: (← orNone (initializer rules)).toList) <|> creationOfType rules
    | _ => creationOfType rules
  nodeFrom .creation start parts

def stackCreation (rules : Rules) : Parser SyntaxNode := do
  let start ← startHere
  keyword "stackalloc"
  let type ← orNone (sizedType rules)
  if type.isNone then
    let _ ← openRank
  let elements ← orNone (initializer rules)
  nodeFrom .creation start (type.toList ++ elements.toList)

def typeTest (rules : Rules) : Parser SyntaxNode := do
  let start ← startHere
  let _ ← anyKeyword ["typeof", "sizeof"]
  nodeFrom .otherExpression start [← inParentheses (rules .type)]

def defaultValue (rules : Rules) : Parser SyntaxNode := do
  let start ← startHere
  keyword "default"
  let type ← orNone (inParentheses (rules .type))
  nodeFrom .otherExpression start type.toList

def overflowContext (rules : Rules) : Parser SyntaxNode := do
  let start ← startHere
  let _ ← anyKeyword ["checked", "unchecked"]
  nodeFrom .otherExpression start [← inParentheses rules.value]

def prefixMarks : List String := ["+", "-", "!", "~", "++", "--", "&", "*", "^"]

def prefixOperation (rules : Rules) (arrows : Bool) : Parser SyntaxNode := do
  let start ← startHere
  let symbol ← anyMarkOf prefixMarks
  nodeFrom (.prefixUnary symbol) start [← rules.operand arrows]

def rangeEnd (rules : Rules) (arrows : Bool) : Parser SyntaxNode := do
  let start ← startHere
  mark ".."
  let stop ← orNone (rules.operand arrows)
  nodeFrom .otherExpression start stop.toList

def awaiting (rules : Rules) (arrows : Bool) : Parser SyntaxNode := do
  let start ← startHere
  keyword "await"
  if operandEnders.contains (← wordAhead) then failure
  skipTrivia
  let _ ← peekOperand
  nodeFrom .awaiting start [← rules.operand arrows]
where
  peekOperand : Parser Unit := do
    let isOperand ← isAhead (char fun c =>
      Text.beginsIdentifier c || c.isDigit || ['(', '"', '$', '@', '\''].contains c)
    if isOperand then return else failure

def leadingWord (rules : Rules) : Parser SyntaxNode := do
  let start ← startHere
  let _ ← anyKeyword ["throw", "ref"]
  nodeFrom .otherExpression start [← rules.value]

-- What may follow a cast: not a word that is an operator or a clause behind an operand.
def castOperandAhead : Parser Unit := do
  let next ← wordAhead
  if operandEnders.contains next then failure else return

def cast (rules : Rules) (arrows : Bool) : Parser SyntaxNode := do
  let start ← startHere
  let type ← inParentheses (sizedType rules)
  castOperandAhead
  nodeFrom .cast start [type, ← rules.operand arrows]

def grouping (rules : Rules) : Parser SyntaxNode := do
  let start ← startHere
  let elements ← inParentheses (separated (argument rules))
  match elements with
  | [inner] => nodeFrom (if inner.kind == .argument then .tuple else .parenthesized) start elements
  | _ => nodeFrom .tuple start elements

def bracketed (rules : Rules) : Parser SyntaxNode := do
  let start ← startHere
  let elements ← between "[" "]" (trailing (argument rules))
  nodeFrom .bracketed start elements

def expressionRegion (rules : Rules) : Parser SyntaxNode := region rules.value

def wordOperand (rules : Rules) (arrows : Bool) (text : String) : Parser SyntaxNode := do
  let start ← startHere
  match text with
  | "new" => creation rules
  | "stackalloc" => stackCreation rules
  | "typeof" | "sizeof" => typeTest rules
  | "default" => defaultValue rules
  | "checked" | "unchecked" => overflowContext rules
  | "delegate" => anonymousMethod rules
  | "throw" | "ref" => leadingWord rules
  | "this" =>
    keyword "this"
    nodeFrom .selfReference start []
  | "base" =>
    keyword "base"
    nodeFrom .otherExpression start []
  | "true" | "false" | "null" =>
    keyword text
    nodeFrom .literal start []
  | "async" | "static" =>
    anonymousMethod rules <|> nameOrLambda rules arrows
  | "await" => awaiting rules arrows <|> nameOrLambda rules arrows
  | "from" => comprehension rules <|> nameOrLambda rules arrows
  | _ =>
    if predefinedTypes.contains text then (if arrows then lambda rules else failure) <|> predefinedType
    else nameOrLambda rules arrows

def start (rules : Rules) (arrows : Bool) : Parser SyntaxNode := do
  skipTrivia
  match (← ahead).head? with
  | none => failure
  | some c =>
    if Text.beginsIdentifier c then wordOperand rules arrows (← wordAhead)
    else if c.isDigit then number
    else
      match c with
      | '(' => (if arrows then lambda rules else failure) <|> cast rules arrows <|> grouping rules
      | '[' => (if arrows then lambda rules else failure) <|> bracketed rules
      | '"' => stringLiteral
      | '\'' => character
      | '$' => interpolatedString rules
      | '@' =>
        interpolatedString rules <|> stringLiteral <|> nameOrLambda rules arrows
      | '\\' => nameOrLambda rules arrows
      | '.' => number <|> rangeEnd rules arrows
      | '#' => expressionRegion rules
      | _ => prefixOperation rules arrows

end ScriptAudit.Syntax
