import ScriptAudit.Syntax.Grammar.Expression

namespace ScriptAudit.Syntax

open Text (Parser Place)
open Text.Parser

def block (rules : Rules) : Parser SyntaxNode := do
  let start ← startHere
  let statements ← inBraces (many (rules .statement))
  nodeFrom .block start statements

def functionBody (rules : Rules) : Parser SyntaxNode := do
  let start ← startHere
  match ← markAhead with
  | "\x7b" => block rules
  | "=>" =>
    mark "=>"
    let value ← rules.value
    mark ";"
    nodeFrom .body start [value]
  | _ =>
    mark ";"
    nodeFrom .body start []

def declaredValue (rules : Rules) : Parser SyntaxNode := do
  mark "="
  if (← markAhead) == "\x7b" then initializer rules else rules.value

def declarator (rules : Rules) : Parser SyntaxNode := do
  let name ← identifier
  let sizes ← orNone (bracketedArguments rules)
  let value ← orNone (declaredValue rules)
  nodeOver .declarator (name.inField .name) (sizes.toList ++ value.toList)

def typedDeclarators (rules : Rules) : Parser SyntaxNode := do
  let type ← rules .type
  nodeOver .declarator type (← separated (declarator rules))

def deconstruction (rules : Rules) : Parser SyntaxNode := do
  let start ← startHere
  keyword "var"
  if (← markAhead) != "(" then failure
  let names ← designations
  nodeFrom .declarator start [names, ← declaredValue rules]

def localModifiers : List String := ["const", "static", "async", "unsafe", "extern", "readonly"]

-- A modifier of a local declaration; `async` is one only in front of a further word or a tuple.
def localModifier : Parser Unit := do
  let text ← anyKeyword localModifiers
  if text == "async" && !(← isAhead word) && (← markAhead) != "(" then failure

def localFunctionRest (rules : Rules) : Parser (List SyntaxNode) := do
  let generics ← orNone (typeParameters rules)
  let parameters ← parameters rules
  let limits ← constraints rules
  return generics.toList ++ parameters :: limits ++ [← functionBody rules]

def localFunction (rules : Rules) : Parser SyntaxNode := do
  let start ← startHere
  let attributes ← attributeLists rules
  let _ ← many localModifier
  if ← keywordAhead "await" then failure
  let type ← rules .type
  let name ← identifier
  if ["(", "<"].contains (← markAhead) then
    nodeFrom .localFunction start
      (attributes ++ type :: name.inField .name :: (← localFunctionRest rules))
  else failure

def localVariables (rules : Rules) : Parser SyntaxNode := do
  let start ← startHere
  let _ ← orNone (keyword "await")
  let _ ← orNone (keyword "using")
  let _ ← many localModifier
  let declared ← deconstruction rules <|> typed
  mark ";"
  nodeFrom .statement start [declared]
where
  typed : Parser SyntaxNode := do
    if ← keywordAhead "await" then failure
    let isDeclaration ← isAhead do
      let _ ← rules .type
      identifier
    if isDeclaration then typedDeclarators rules else failure

def doesSomething : Kind → Bool
  | .assignment | .invocation | .postfixUnary | .awaiting | .creation | .parenthesized => true
  | .prefixUnary _ => true
  | _ => false

def expressionStatement (rules : Rules) : Parser SyntaxNode := do
  let start ← startHere
  let value ← rules.value
  mark ";"
  if doesSomething value.kind then nodeFrom .statement start [value] else failure

def labeled (rules : Rules) : Parser SyntaxNode := do
  let start ← startHere
  let _ ← identifier
  mark ":"
  nodeFrom .statement start [← rules .statement]

def condition (rules : Rules) : Parser SyntaxNode := inParentheses rules.value

def ifStatement (rules : Rules) : Parser (List SyntaxNode) := do
  keyword "if"
  let test ← condition rules
  let yes ← rules .statement
  let no ← orNone do
    keyword "else"
    rules .statement
  return test :: yes :: no.toList

def guarded (rules : Rules) (name : String) : Parser (List SyntaxNode) := do
  keyword name
  let test ← condition rules
  return [test, ← rules .statement]

def doStatement (rules : Rules) : Parser (List SyntaxNode) := do
  keyword "do"
  let inner ← rules .statement
  keyword "while"
  let test ← condition rules
  mark ";"
  return [inner, test]

def variablesOrValues (rules : Rules) : Parser (List SyntaxNode) :=
  (do
    let isDeclaration ← isAhead do
      let _ ← rules .type
      identifier
    if isDeclaration then return [← typedDeclarators rules] else failure) <|>
  (do return [← deconstruction rules]) <|>
  separated rules.value

def forStatement (rules : Rules) : Parser (List SyntaxNode) := do
  keyword "for"
  mark "("
  let first ← orNone (variablesOrValues rules)
  mark ";"
  let test ← orNone rules.value
  mark ";"
  let next ← orNone (separated rules.value)
  mark ")"
  let inner ← rules .statement
  return first.getD [] ++ test.toList ++ next.getD [] ++ [inner]

def loopVariable (rules : Rules) : Parser (List SyntaxNode) :=
  (do
    let type ← rules .type
    let name ← identifier <|> designations
    keyword "in"
    return [type, name]) <|>
  (do
    let target ← rules.value
    keyword "in"
    return [target])

def foreachStatement (rules : Rules) : Parser (List SyntaxNode) := do
  let _ ← orNone (keyword "await")
  keyword "foreach"
  mark "("
  let declared ← loopVariable rules
  let source ← rules.value
  mark ")"
  return declared ++ [source, ← rules .statement]

def usingStatement (rules : Rules) : Parser (List SyntaxNode) := do
  let _ ← orNone (keyword "await")
  keyword "using"
  let resource ← inParentheses (variablesOrValues rules)
  return resource ++ [← rules .statement]

def fixedStatement (rules : Rules) : Parser (List SyntaxNode) := do
  keyword "fixed"
  let pinned ← inParentheses (typedDeclarators rules)
  return [pinned, ← rules .statement]

def catchVariable (rules : Rules) : Parser (List SyntaxNode) := inParentheses do
  let type ← rules .type
  let name ← orNone identifier
  return type :: name.toList

def catchClause (rules : Rules) : Parser (List SyntaxNode) := do
  keyword "catch"
  let declared ← orNone (catchVariable rules)
  let test ← orNone do
    keyword "when"
    condition rules
  return declared.getD [] ++ test.toList ++ [← block rules]

def finallyClause (rules : Rules) : Parser SyntaxNode := do
  keyword "finally"
  block rules

def tryStatement (rules : Rules) : Parser (List SyntaxNode) := do
  keyword "try"
  let inner ← block rules
  let catches ← many (catchClause rules)
  let last ← orNone (finallyClause rules)
  return inner :: catches.flatten ++ last.toList

def switchLabel (rules : Rules) : Parser (List SyntaxNode) :=
  (do
    keyword "case"
    let pattern ← delimitedPattern rules [":"]
    let guardian ← orNone do
      keyword "when"
      rules.value
    mark ":"
    return pattern :: guardian.toList) <|>
  (do
    keyword "default"
    mark ":"
    return [])

def switchSection (rules : Rules) : Parser SyntaxNode := do
  let start ← startHere
  let label ← switchLabel rules
  let statements ← many do
    if ← isAhead labelAhead then failure
    rules .statement
  nodeFrom .statement start (label ++ statements)
where
  labelAhead : Parser Unit := do
    keyword "case" <|> do
      keyword "default"
      mark ":"

def switchStatement (rules : Rules) : Parser (List SyntaxNode) := do
  keyword "switch"
  let subject ← grouping rules
  let sections ← inBraces (many (switchSection rules <|> region (switchSection rules)))
  return subject :: sections

def gotoStatement (rules : Rules) : Parser (List SyntaxNode) := do
  keyword "goto"
  let target ←
    (do
      keyword "case"
      return [← rules.value]) <|>
    (do
      keyword "default"
      return []) <|>
    (do return [← identifier])
  mark ";"
  return target

def jump (rules : Rules) (name : String) : Parser (List SyntaxNode) := do
  keyword name
  let value ← orNone rules.value
  mark ";"
  return value.toList

def yieldStatement (rules : Rules) : Parser (List SyntaxNode) := do
  keyword "yield"
  (do
    keyword "return"
    let value ← rules.value
    mark ";"
    return [value]) <|>
  (do
    keyword "break"
    mark ";"
    return [])

def blockAfter (rules : Rules) (names : List String) : Parser (List SyntaxNode) := do
  let _ ← anyKeyword names
  return [← block rules]

def keywordOnly (name : String) : Parser (List SyntaxNode) := do
  keyword name
  mark ";"
  return []

def asStatement (p : Parser (List SyntaxNode)) : Parser SyntaxNode := do
  let start ← startHere
  nodeFrom .statement start (← p)

def plainStatement (rules : Rules) : Parser SyntaxNode :=
  localFunction rules <|> localVariables rules <|> labeled rules <|> expressionStatement rules

def wordStatement (rules : Rules) (text : String) : Parser SyntaxNode :=
  match text with
  | "if" => asStatement (ifStatement rules)
  | "while" | "lock" => asStatement (guarded rules text)
  | "do" => asStatement (doStatement rules)
  | "for" => asStatement (forStatement rules)
  | "foreach" => asStatement (foreachStatement rules)
  | "switch" => asStatement (switchStatement rules)
  | "return" | "throw" => asStatement (jump rules text)
  | "break" | "continue" => asStatement (keywordOnly text)
  | "try" => asStatement (tryStatement rules)
  | "goto" => asStatement (gotoStatement rules)
  | "yield" => asStatement (yieldStatement rules) <|> plainStatement rules
  | "checked" | "unchecked" | "unsafe" =>
    asStatement (blockAfter rules [text]) <|> plainStatement rules
  | "fixed" => asStatement (fixedStatement rules)
  | "using" => asStatement (usingStatement rules) <|> plainStatement rules
  | "await" =>
    asStatement (foreachStatement rules) <|> asStatement (usingStatement rules) <|> plainStatement rules
  | _ => plainStatement rules

def statementPhrase (rules : Rules) : Parser SyntaxNode := do
  skipTrivia
  match (← ahead).head? with
  | some '{' => block rules
  | some ';' => asStatement do
    mark ";"
    return []
  | some '#' => region (rules .statement)
  | _ => wordStatement rules (← wordAhead)

end ScriptAudit.Syntax
