import ScriptAudit.Syntax.Grammar.Basic

namespace ScriptAudit.Syntax

open Text (Parser Place)
open Text.Parser

-- Generic arguments, or commas alone where a generic type is left open.
def typeArguments (rules : Rules) : Parser (List SyntaxNode) := do
  mark "<"
  (do
    let _ ← many (mark ",")
    bareMark '>'
    return []) <|>
  (do
    let arguments ← separated (rules .type)
    bareMark '>'
    return arguments)

def typeNameSegment (rules : Rules) : Parser SyntaxNode := do
  let name ← identifier
  match ← orNone (typeArguments rules) with
  | none => return name
  | some arguments => nodeOver .genericName name arguments

def qualifiedTypeName (rules : Rules) : Parser SyntaxNode := do
  let first ← typeNameSegment rules
  extend (fun left => do
    mark "." <|> mark "::"
    nodeOver .qualifiedName left [← typeNameSegment rules]) first

def predefinedType : Parser SyntaxNode := do
  let start ← startHere
  let _ ← anyKeyword predefinedTypes
  nodeFrom .type start []

def tupleTypeElement (rules : Rules) : Parser SyntaxNode := do
  let type ← rules .type
  let _ ← orNone identifier
  return type

def tupleType (rules : Rules) : Parser SyntaxNode := do
  let start ← startHere
  let elements ← inParentheses (separated (tupleTypeElement rules))
  if elements.length < 2 then failure
  nodeFrom .type start elements

def functionPointerType (rules : Rules) : Parser SyntaxNode := do
  let start ← startHere
  keyword "delegate"
  mark "*"
  let _ ← orNone (anyKeyword ["managed", "unmanaged"])
  let _ ← orNone (between "[" "]" (separated identifier))
  mark "<"
  let parameters ← separated do
    let _ ← many (anyKeyword ["ref", "out", "in", "readonly"])
    rules .type
  bareMark '>'
  nodeFrom .type start parameters

def referenceType (rules : Rules) : Parser SyntaxNode := do
  let start ← startHere
  keyword "ref"
  let _ ← orNone (keyword "readonly")
  nodeFrom .type start [← rules .type]

def scopedType (rules : Rules) : Parser SyntaxNode := do
  let start ← startHere
  keyword "scoped"
  let type ← rules .type
  if ← identifierAhead then nodeFrom .type start [type] else failure

def typeHead (rules : Rules) : Parser SyntaxNode :=
  predefinedType <|> scopedType rules <|> qualifiedTypeName rules <|> tupleType rules <|>
    functionPointerType rules <|> referenceType rules

def openRank : Parser (List SyntaxNode) := between "[" "]" do
  let _ ← many (mark ",")
  return []

def sizedRank (rules : Rules) : Parser (List SyntaxNode) :=
  openRank <|> between "[" "]" (separated rules.value)

def typeSuffixes (rank : Parser (List SyntaxNode)) (question : Parser Unit) (left : SyntaxNode) :
    Parser SyntaxNode :=
  (do nodeOver .type left (← rank)) <|>
  (do
    question
    nodeOver .type left []) <|>
  (do
    mark "*"
    nodeOver .type left [])

def typePhrase (rules : Rules) : Parser SyntaxNode := do
  extend (typeSuffixes openRank (mark "?")) (← typeHead rules)

def sizedType (rules : Rules) : Parser SyntaxNode := do
  extend (typeSuffixes (sizedRank rules) (mark "?")) (← typeHead rules)

-- A question mark behind the type of a test that cannot be the one of a conditional, since nothing follows it
-- that an expression could start with.
def closedQuestion : Parser Unit := do
  mark "?"
  let next ← markAhead
  if [")", "]", "\x7d", ";", ",", "&&", "||", "==", "!=", ":", "=>", "??", ">"].contains next then return
  else failure

def testedType (rules : Rules) : Parser SyntaxNode := do
  extend (fun left =>
    (do nodeOver .type left (← openRank)) <|>
    (do
      closedQuestion
      nodeOver .type left [])) (← typeHead rules)

end ScriptAudit.Syntax
