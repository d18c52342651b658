import ScriptAudit.Syntax.Grammar.Statement

namespace ScriptAudit.Syntax

open Text (Parser Place)
open Text.Parser

def plainModifiers : List String :=
  ["abstract", "const", "extern", "fixed", "internal", "new", "override", "private", "protected", "public",
    "readonly", "sealed", "static", "unsafe", "virtual", "volatile"]

def wordModifiers : List String := ["async", "file", "partial", "required"]

-- A word that modifies only in front of more of a declaration than a single name.
def wordModifier : Parser Unit := do
  let _ ← anyKeyword wordModifiers
  let goesOn ← isAhead do
    let next ← word
    if reservedWords.contains next then return
    else if [";", "=", ",", "\x7b", "=>", "("].contains (← markAhead) then failure
    else return
  if goesOn || (← markAhead) == "(" then return else failure

def refModifier : Parser Unit := do
  keyword "ref"
  let next ← wordAhead
  if next == "struct" || next == "partial" then return else failure

def modifier : Parser Unit := do
  if plainModifiers.contains (← wordAhead) then
    let _ ← word
  else wordModifier <|> refModifier

-- Bases. Comments and directives between the colon and the last entry are entries of the list.

def nextEntry (p : Parser (List SyntaxNode)) : Parser (List SyntaxNode) := do
  let before ← trivia
  mark ","
  let after ← trivia
  return before ++ after ++ (← p)

def baseEntry (rules : Rules) : Parser (List SyntaxNode) := do
  let type ← rules .type
  let values ← orNone do
    let before ← trivia
    return before ++ [← arguments rules]
  return type :: values.getD []

def recordEntry (rules : Rules) : Parser (List SyntaxNode) := do
  let type ← rules .type
  match ← orNone (arguments rules) with
  | none => return [type]
  | some values => return [← nodeOver .constructorBase type [values]]

def baseList (entry : Parser (List SyntaxNode)) : Parser SyntaxNode := do
  let start ← startHere
  mark ":"
  let before ← trivia
  let first ← entry
  let others ← many (nextEntry entry)
  nodeFrom .baseList start (before ++ first ++ others.flatten)

def members (rules : Rules) : Parser SyntaxNode := do
  let start ← startHere
  let inner ← inBraces (many (rules .member))
  nodeFrom .body start inner

def optionalSemicolon : Parser Unit := do
  let _ ← orNone (mark ";")

def typeBody (rules : Rules) : Parser (List SyntaxNode) :=
  (do
    mark ";"
    return []) <|>
  (do
    let body ← members rules
    optionalSemicolon
    return [body])

def typeRest (rules : Rules) (bases : Parser SyntaxNode) : Parser (List SyntaxNode) := do
  let name ← identifier
  let parts ← many (typeParameters rules <|> parameters rules <|> bases)
  let limits ← constraints rules
  return name.inField .name :: parts ++ limits ++ (← typeBody rules)

def classRest (rules : Rules) : Parser (Kind × List SyntaxNode) := do
  keyword "class"
  return (.classDeclaration, ← typeRest rules (baseList (baseEntry rules)))

def structRest (rules : Rules) : Parser (Kind × List SyntaxNode) := do
  keyword "struct"
  return (.structDeclaration, ← typeRest rules (baseList (baseEntry rules)))

def interfaceRest (rules : Rules) : Parser (Kind × List SyntaxNode) := do
  keyword "interface"
  return (.interfaceDeclaration, ← typeRest rules (baseList (baseEntry rules)))

def recordRest (rules : Rules) : Parser (Kind × List SyntaxNode) := do
  keyword "record"
  let _ ← orNone (anyKeyword ["class", "struct"])
  return (.recordDeclaration, ← typeRest rules (baseList (recordEntry rules)))

def enumMember (rules : Rules) : Parser SyntaxNode := do
  let start ← startHere
  let attributes ← attributeLists rules
  let name ← identifier
  let value ← orNone (declaredValue rules)
  nodeFrom .declarator start (attributes ++ name :: value.toList)

-- Members of an enumeration. Only the last one, or one next to a directive, needs no comma behind it.
def enumMembers (rules : Rules) : Parser (List SyntaxNode) := do
  let groups ← many ((do return [← enumItem]) <|> branches enumItem)
  return groups.flatten
where
  enumItem : Parser SyntaxNode := do
    let item ← enumMember rules
    mark "," <|> noMember
    return item
  noMember : Parser Unit := do
    if (← identifierAhead) || (← markAhead) == "[" then failure

def enumRest (rules : Rules) : Parser (Kind × List SyntaxNode) := do
  keyword "enum"
  let name ← identifier
  let base ← orNone do
    mark ":"
    rules .type
  let inner ← inBraces (enumMembers rules)
  optionalSemicolon
  return (.enumDeclaration, name.inField .name :: base.toList ++ inner)

def delegateRest (rules : Rules) : Parser (Kind × List SyntaxNode) := do
  keyword "delegate"
  let type ← rules .type
  let name ← identifier
  let generics ← orNone (typeParameters rules)
  let parameters ← parameters rules
  let limits ← constraints rules
  mark ";"
  return (.delegateDeclaration, type :: name.inField .name :: generics.toList ++ parameters :: limits)

def typeDeclarationRest (rules : Rules) : Parser (Kind × List SyntaxNode) := do
  match ← wordAhead with
  | "class" => classRest rules
  | "struct" => structRest rules
  | "interface" => interfaceRest rules
  | "enum" => enumRest rules
  | "record" => recordRest rules
  | "delegate" => delegateRest rules
  | _ => failure

def accessor (rules : Rules) : Parser SyntaxNode := do
  let start ← startHere
  let attributes ← attributeLists rules
  let _ ← many (anyKeyword plainModifiers)
  let _ ← identifier
  nodeFrom .accessor start (attributes ++ [← functionBody rules])

def accessors (rules : Rules) : Parser (List SyntaxNode) :=
  inBraces (many (accessor rules <|> region (accessor rules)))

def arrowValue (rules : Rules) : Parser SyntaxNode := do
  mark "=>"
  let value ← rules.value
  mark ";"
  return value

def explicitInterface (rules : Rules) : Parser (List SyntaxNode) := many do
  let name ← typeNameSegment rules
  mark "." <|> mark "::"
  return name

def methodRest (rules : Rules) : Parser (List SyntaxNode) := do
  let name ← identifier
  let generics ← orNone (typeParameters rules)
  let parameters ← parameters rules
  let limits ← constraints rules
  return name.inField .name :: generics.toList ++ parameters :: limits ++ [← functionBody rules]

def propertyRest (rules : Rules) : Parser (List SyntaxNode) := do
  let name ← identifier
  (do
    let inner ← accessors rules
    let value ← orNone do
      let value ← declaredValue rules
      mark ";"
      return value
    return name.inField .name :: inner ++ value.toList) <|>
  (do return [name.inField .name, ← arrowValue rules])

def indexerRest (rules : Rules) : Parser (List SyntaxNode) := do
  keyword "this"
  let parameters ← parameterList "[" "]" (typedParameter rules)
  (do return parameters :: (← accessors rules)) <|>
  (do return [parameters, ← arrowValue rules])

def operatorSymbol : Parser Unit := do
  let _ ← orNone (keyword "checked")
  (do let _ ← anyKeyword ["true", "false"]) <|> do let _ ← anyMark

def operatorRest (rules : Rules) : Parser (List SyntaxNode) := do
  keyword "operator"
  operatorSymbol
  let parameters ← parameters rules
  return [parameters, ← functionBody rules]

def fieldRest (rules : Rules) : Parser (List SyntaxNode) := do
  let declarators ← separated (declarator rules)
  mark ";"
  return declarators

def typedMemberRest (rules : Rules) : Parser (Kind × List SyntaxNode) :=
  (do return (.fieldDeclaration, ← fieldRest rules)) <|>
  (do
    let owner ← explicitInterface rules
    match ← wordAhead with
    | "operator" => return (.operatorDeclaration, owner ++ (← operatorRest rules))
    | "this" => return (.propertyDeclaration, owner ++ (← indexerRest rules))
    | _ =>
      (do return (.methodDeclaration, owner ++ (← methodRest rules))) <|>
      (do return (.propertyDeclaration, owner ++ (← propertyRest rules))))

def constructorInitializer (rules : Rules) : Parser SyntaxNode := do
  mark ":"
  let _ ← anyKeyword ["base", "this"]
  arguments rules

def constructorRest (rules : Rules) : Parser (Kind × List SyntaxNode) := do
  let name ← identifier
  let parameters ← parameters rules
  let first ← orNone (constructorInitializer rules)
  let body ← functionBody rules
  return (.constructorDeclaration, name.inField .name :: parameters :: first.toList ++ [body])

def destructorRest (rules : Rules) : Parser (Kind × List SyntaxNode) := do
  mark "~"
  let (_, parts) ← constructorRest rules
  return (.constructorDeclaration, parts)

def conversionRest (rules : Rules) : Parser (Kind × List SyntaxNode) := do
  let _ ← anyKeyword ["implicit", "explicit"]
  let owner ← explicitInterface rules
  keyword "operator"
  let _ ← orNone (keyword "checked")
  let type ← rules .type
  let parameters ← parameters rules
  return (.operatorDeclaration, owner ++ [type, parameters, ← functionBody rules])

def eventRest (rules : Rules) : Parser (Kind × List SyntaxNode) := do
  keyword "event"
  let type ← rules .type
  (do return (.eventDeclaration, type :: (← fieldRest rules))) <|>
  (do
    let owner ← explicitInterface rules
    let name ← identifier
    let inner ← accessors rules <|> do
      mark ";"
      return []
    return (.eventDeclaration, type :: owner ++ name.inField .name :: inner))

def memberRest (rules : Rules) : Parser (Kind × List SyntaxNode) := do
  match ← wordAhead with
  | "class" | "struct" | "interface" | "enum" => typeDeclarationRest rules
  | "record" | "delegate" => typeDeclarationRest rules <|> ordinary
  | "event" => eventRest rules
  | "implicit" | "explicit" => conversionRest rules
  | "" => destructorRest rules <|> ordinary
  | _ => ordinary
where
  ordinary : Parser (Kind × List SyntaxNode) :=
    constructorRest rules <|> do
      let type ← rules .type
      let (kind, parts) ← typedMemberRest rules
      return (kind, type :: parts)

def externAlias : Parser SyntaxNode := do
  let start ← startHere
  keyword "extern"
  keyword "alias"
  let name ← identifier
  mark ";"
  nodeFrom .directive start [name]

def usingDirective (rules : Rules) : Parser SyntaxNode := do
  let start ← startHere
  let _ ← orNone (keyword "global")
  keyword "using"
  let target ←
    (do
      let _ ← orNone (keyword "unsafe")
      let name ← identifier
      mark "="
      let type ← rules .type
      mark ";"
      return [name, type]) <|>
    (do
      let _ ← many (anyKeyword ["static", "unsafe"])
      let name ← qualifiedTypeName rules
      mark ";"
      return [name])
  nodeFrom .directive start target

def namespaceDeclaration (rules : Rules) : Parser SyntaxNode := do
  let start ← startHere
  keyword "namespace"
  let name ← qualifiedTypeName rules
  if (← markAhead) == ";" then
    mark ";"
    nodeFrom .namespaceDeclaration start [name.inField .name]
  else
    let inner ← members rules
    optionalSemicolon
    nodeFrom .namespaceDeclaration start [name.inField .name, inner]

def declaration (rest : Parser (Kind × List SyntaxNode)) (rules : Rules) : Parser SyntaxNode := do
  let start ← startHere
  let attributes ← attributeLists rules
  let _ ← many modifier
  let (kind, parts) ← rest
  nodeFrom kind start (attributes ++ parts)

def memberPhrase (rules : Rules) : Parser SyntaxNode := do
  skipTrivia
  if (← ahead).head? == some '#' then region (rules .member) <|> declaration (memberRest rules) rules
  else
    match ← wordAhead with
    | "namespace" => namespaceDeclaration rules
    | "using" | "global" => usingDirective rules <|> declaration (memberRest rules) rules
    | "extern" => externAlias <|> declaration (memberRest rules) rules
    | _ => declaration (memberRest rules) rules

def globalAttribute (rules : Rules) : Parser SyntaxNode := do
  let start ← startHere
  mark "["
  let _ ← anyKeyword ["assembly", "module"]
  mark ":"
  let attributes ← separated (attributeUse rules)
  let _ ← orNone (mark ",")
  mark "]"
  nodeFrom .attributes start attributes

def itemPhrase (rules : Rules) : Parser SyntaxNode := do
  skipTrivia
  if (← ahead).head? == some '#' then region (rules .item)
  else
    match ← wordAhead with
    | "namespace" => namespaceDeclaration rules
    | _ =>
      usingDirective rules <|> externAlias <|> globalAttribute rules <|>
        declaration (typeDeclarationRest rules) rules <|> rules .statement

end ScriptAudit.Syntax
