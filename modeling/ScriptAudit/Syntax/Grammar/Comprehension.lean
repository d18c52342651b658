import ScriptAudit.Syntax.Grammar.Argument

namespace ScriptAudit.Syntax

open Text (Parser Place)
open Text.Parser

def rangeVariable (rules : Rules) : Parser (List SyntaxNode) :=
  (do
    let name ← identifier
    keyword "in"
    return [name]) <|>
  (do
    let type ← rules .type
    let name ← identifier
    keyword "in"
    return [type, name])

def fromClause (rules : Rules) : Parser (List SyntaxNode) := do
  keyword "from"
  let range ← rangeVariable rules
  return range ++ [← rules.value]

def letClause (rules : Rules) : Parser (List SyntaxNode) := do
  keyword "let"
  let name ← identifier
  mark "="
  return [name, ← rules.value]

def whereClause (rules : Rules) : Parser (List SyntaxNode) := do
  keyword "where"
  return [← rules.value]

def joinClause (rules : Rules) : Parser (List SyntaxNode) := do
  keyword "join"
  let range ← rangeVariable rules
  let source ← rules.value
  keyword "on"
  let left ← rules.value
  keyword "equals"
  let right ← rules.value
  let into ← orNone do
    keyword "into"
    identifier
  return range ++ [source, left, right] ++ into.toList

def ordering (rules : Rules) : Parser SyntaxNode := do
  let value ← rules.value
  let _ ← orNone (anyKeyword ["ascending", "descending"])
  return value

def orderClause (rules : Rules) : Parser (List SyntaxNode) := do
  keyword "orderby"
  separated (ordering rules)

def bodyClause (rules : Rules) : Parser (List SyntaxNode) :=
  fromClause rules <|> letClause rules <|> whereClause rules <|> joinClause rules <|> orderClause rules

def finalClause (rules : Rules) : Parser (List SyntaxNode) :=
  (do
    keyword "select"
    return [← rules.value]) <|>
  (do
    keyword "group"
    let value ← rules.value
    keyword "by"
    return [value, ← rules.value])

def comprehensionBody (rules : Rules) : Parser (List SyntaxNode) := do
  let clauses ← many (bodyClause rules)
  return clauses.flatten ++ (← finalClause rules)

def continuation (rules : Rules) : Parser (List SyntaxNode) := do
  keyword "into"
  let name ← identifier
  return name :: (← comprehensionBody rules)

def comprehension (rules : Rules) : Parser SyntaxNode := do
  let start ← startHere
  let first ← fromClause rules
  let body ← comprehensionBody rules
  let more ← many (continuation rules)
  nodeFrom .otherExpression start (first ++ body ++ more.flatten)

end ScriptAudit.Syntax
