import ScriptAudit.Syntax.Grammar.Pattern

namespace ScriptAudit.Syntax

open Text (Parser Place)
open Text.Parser

def binaryLevel : String → Option Nat
  | "*" | "/" | "%" => some 13
  | "+" | "-" => some 12
  | "<<" | ">>" | ">>>" => some 11
  | "<" | ">" | "<=" | ">=" => some 10
  | "==" | "!=" => some 9
  | "&" => some 8
  | "^" => some 7
  | "|" => some 6
  | "&&" => some 5
  | "||" => some 4
  | "??" => some 3
  | _ => none

def rangeLevel : Nat := 16
def switchLevel : Nat := 15
def copyLevel : Nat := 14
def testLevel : Nat := 10
def conditionalLevel : Nat := 2

def assignmentMarks : List String :=
  ["=", "+=", "-=", "*=", "/=", "%=", "&=", "^=", "|=", "<<=", ">>=", ">>>=", "??="]

def isAssignable : Kind → Bool
  | .identifier | .genericName | .qualifiedName | .memberAccess | .elementAccess | .tuple | .bracketed
  | .parenthesized | .selfReference => true
  | .prefixUnary symbol => symbol == "*"
  | _ => false

-- What applies to the whole of what is on the left, at any level.

def member (rules : Rules) (left : SyntaxNode) : Parser SyntaxNode := do
  let _ ← anyMarkOf [".", "->"]
  let name ← simpleName rules
  nodeOver .memberAccess (left.inField .expression) [name.inField .name]

def invocation (rules : Rules) (left : SyntaxNode) : Parser SyntaxNode := do
  nodeOver .invocation (left.inField .function) [← arguments rules]

def element (rules : Rules) (left : SyntaxNode) : Parser SyntaxNode := do
  nodeOver .elementAccess (left.inField .expression) [← bracketedArguments rules]

def postfixMark (left : SyntaxNode) : Parser SyntaxNode := do
  let _ ← anyMarkOf ["++", "--", "!"]
  nodeOver .postfixUnary left []

def binary (rules : Rules) (arrows : Bool) (symbol : String) (level : Nat) (left : SyntaxNode) :
    Parser SyntaxNode := do
  let sign ← operatorNode symbol
  let least := if symbol == "??" then level else level + 1
  let right ← rules (.expression least arrows)
  nodeOver .binary (left.inField .left) [sign.inField .operator, right.inField .right]

def assignment (rules : Rules) (arrows : Bool) (left : SyntaxNode) : Parser SyntaxNode := do
  let _ ← anyMarkOf assignmentMarks
  let right ← rules (.expression 0 arrows)
  nodeOver .assignment (left.inField .left) [right.inField .right]

def conditionalMember (rules : Rules) : Parser SyntaxNode :=
  (do
    mark "."
    simpleName rules) <|>
  bracketedArguments rules

def conditionalAccess (rules : Rules) (left : SyntaxNode) : Parser SyntaxNode := do
  mark "?"
  nodeOver .conditionalAccess left [← conditionalMember rules]

def conditional (rules : Rules) (arrows : Bool) (left : SyntaxNode) : Parser SyntaxNode := do
  mark "?"
  let yes ← rules.value
  mark ":"
  let no ← rules (.expression conditionalLevel arrows)
  nodeOver .otherExpression left [yes, no]

-- A question mark starts an access where a dot or a bracket touches it, and a conditional otherwise.
def question (rules : Rules) (arrows : Bool) (left : SyntaxNode) : Parser SyntaxNode := do
  skipTrivia
  match (← ahead).drop 1 with
  | '.' :: c :: _ =>
    if c.isDigit then conditional rules arrows left else conditionalAccess rules left
  | '[' :: _ => conditionalAccess rules left <|> conditional rules arrows left
  | _ => conditional rules arrows left <|> conditionalAccess rules left

def rangeFrom (rules : Rules) (arrows : Bool) (left : SyntaxNode) : Parser SyntaxNode := do
  mark ".."
  let stop ← orNone (rules.operand arrows)
  nodeOver .otherExpression left stop.toList

def typeCheck (rules : Rules) (left : SyntaxNode) : Parser SyntaxNode := do
  keyword "is"
  nodeOver .otherExpression left [← rules .pattern]

def conversion (rules : Rules) (left : SyntaxNode) : Parser SyntaxNode := do
  keyword "as"
  nodeOver .otherExpression left [← testedType rules]

def switchArm (rules : Rules) : Parser SyntaxNode := do
  let pattern ← delimitedPattern rules ["=>"]
  let guardian ← orNone do
    keyword "when"
    rules (.expression 0 false)
  mark "=>"
  let value ← rules.value
  nodeOver .otherExpression pattern (guardian.toList ++ [value])

def switchArms (rules : Rules) (left : SyntaxNode) : Parser SyntaxNode := do
  keyword "switch"
  let arms ← inBraces (trailing (switchArm rules))
  nodeOver .otherExpression left arms

def copyWith (rules : Rules) (left : SyntaxNode) : Parser SyntaxNode := do
  keyword "with"
  nodeOver .otherExpression left [← initializer rules]

def wordStep (rules : Rules) (least : Nat) (left : SyntaxNode) : Parser SyntaxNode := do
  match ← wordAhead with
  | "is" => if least ≤ testLevel then typeCheck rules left else failure
  | "as" => if least ≤ testLevel then conversion rules left else failure
  | "switch" => if least ≤ switchLevel then switchArms rules left else failure
  | "with" => if least ≤ copyLevel then copyWith rules left else failure
  | _ => failure

def markStep (rules : Rules) (least : Nat) (arrows : Bool) (symbol : String) (left : SyntaxNode) :
    Parser SyntaxNode :=
  match symbol with
  | "." | "->" => member rules left
  | "(" => invocation rules left
  | "[" => element rules left
  | "++" | "--" | "!" => postfixMark left
  | "?" => if least ≤ conditionalLevel then question rules arrows left else failure
  | ".." => if least ≤ rangeLevel then rangeFrom rules arrows left else failure
  | _ =>
    match binaryLevel symbol with
    | some level => if least ≤ level then binary rules arrows symbol level left else failure
    | none =>
      if assignmentMarks.contains symbol && isAssignable left.kind then assignment rules arrows left
      else failure

def step (rules : Rules) (least : Nat) (arrows : Bool) (left : SyntaxNode) : Parser SyntaxNode := do
  match ← markAhead with
  | "" => wordStep rules least left
  | symbol => markStep rules least arrows symbol left

def expressionPhrase (rules : Rules) (least : Nat) (arrows : Bool) : Parser SyntaxNode := do
  extend (step rules least arrows) (← start rules arrows)

end ScriptAudit.Syntax
