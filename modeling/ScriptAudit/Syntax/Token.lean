import ScriptAudit.Syntax.Trivia
import ScriptAudit.Text.Letters

namespace ScriptAudit.Syntax

open Text (Parser Place)
open Text.Parser

def reservedWords : List String :=
  ["abstract", "as", "base", "bool", "break", "byte", "case", "catch", "char", "checked", "class", "const",
    "continue", "decimal", "default", "delegate", "do", "double", "else", "enum", "event", "explicit",
    "extern", "false", "finally", "fixed", "float", "for", "foreach", "goto", "if", "implicit", "in", "int",
    "interface", "internal", "is", "lock", "long", "namespace", "new", "null", "object", "operator", "out",
    "override", "params", "private", "protected", "public", "readonly", "ref", "return", "sbyte", "sealed",
    "short", "sizeof", "stackalloc", "static", "string", "struct", "switch", "this", "throw", "true", "try",
    "typeof", "uint", "ulong", "unchecked", "unsafe", "ushort", "using", "virtual", "void", "volatile",
    "while"]

def predefinedTypes : List String :=
  ["bool", "byte", "char", "decimal", "double", "float", "int", "long", "object", "sbyte", "short", "string",
    "uint", "ulong", "ushort", "void"]

def isHex (c : Char) : Bool := c.isDigit || ('a' ≤ c && c ≤ 'f') || ('A' ≤ c && c ≤ 'F')

def hexDigits : Nat → Parser Unit
  | 0 => return
  | count + 1 => do
    let _ ← char isHex
    hexDigits count

def escapedLetter : Parser Unit := do
  exactly ['\\']
  (do exactly ['u']; hexDigits 4) <|> (do exactly ['U']; hexDigits 8)

def wordStart : Parser Unit :=
  (do let _ ← char Text.beginsIdentifier) <|> escapedLetter

def wordRest : Parser Unit :=
  (do let _ ← takeSome Text.continuesIdentifier) <|> escapedLetter

-- Reads a word of letters and digits that is not written with a leading `@`.
def word : Parser String := do
  skipTrivia
  let c ← char Text.beginsIdentifier
  return String.ofList (c :: (← takeWhile Text.continuesIdentifier))

def wordAhead : Parser String := do
  return (← peek word).getD ""

def keyword (text : String) : Parser Unit := do
  if (← word) == text then return else failure

def keywordAhead (text : String) : Parser Bool := do
  return (← wordAhead) == text

def anyKeyword (texts : List String) : Parser String := do
  let text ← word
  if texts.contains text then return text else failure

def identifier : Parser SyntaxNode := do
  skipTrivia
  let start ← get
  let isMarked := (← orNone (exactly ['@'])).isSome
  let before ← ahead
  wordStart
  let _ ← many wordRest
  let after ← ahead
  let text := String.ofList (before.take (before.length - after.length))
  if !isMarked && reservedWords.contains text then failure
  else nodeFrom .identifier start []

def identifierAhead : Parser Bool := isAhead identifier

-- Marks. The longest mark that fits is the one that is there.

def marks : List String :=
  [">>>=", "<<=", ">>=", "??=", ">>>", "=>", "==", "!=", "<=", ">=", "&&", "||", "??", "::", "->", "++", "--",
    "+=", "-=", "*=", "/=", "%=", "&=", "^=", "|=", "<<", ">>", "..",
    "\x7b", "\x7d", "(", ")", "[", "]", ";", ",", ".", ":", "?", "=", "<", ">", "+", "-", "*", "/", "%", "&",
    "|", "^", "!", "~"]

def markIn (text : List Char) : Option String := marks.find? fun mark => mark.toList.isPrefixOf text

def anyMark : Parser String := do
  skipTrivia
  match markIn (← ahead) with
  | none => failure
  | some mark =>
    exactly mark.toList
    return mark

def markAhead : Parser String := do
  return (← peek anyMark).getD ""

def mark (text : String) : Parser Unit := do
  if (← anyMark) == text then return else failure

def anyMarkOf (texts : List String) : Parser String := do
  let text ← anyMark
  if texts.contains text then return text else failure

-- Reads one character whatever follows it, such as the `>` that closes type arguments.
def bareMark (c : Char) : Parser Unit := do
  skipTrivia
  exactly [c]

def operatorNode (symbol : String) : Parser SyntaxNode := do
  skipTrivia
  let start ← get
  mark symbol
  nodeFrom (.operator symbol) start []

def isDigitOrBreak (c : Char) : Bool := c.isDigit || c == '_'

def exponent : Parser Unit := do
  let _ ← char fun c => c == 'e' || c == 'E'
  let _ ← orNone (char fun c => c == '+' || c == '-')
  let _ ← takeSome isDigitOrBreak

def fraction : Parser Unit := do
  exactly ['.']
  let _ ← char Char.isDigit
  let _ ← takeWhile isDigitOrBreak

def numberBody : Parser Unit :=
  (do
    exactly ['0']
    let _ ← char fun c => c == 'x' || c == 'X'
    let _ ← takeSome fun c => isHex c || c == '_') <|>
  (do
    exactly ['0']
    let _ ← char fun c => c == 'b' || c == 'B'
    let _ ← takeSome fun c => c == '0' || c == '1' || c == '_') <|>
  (do
    let _ ← char Char.isDigit
    let _ ← takeWhile isDigitOrBreak
    let _ ← orNone fraction
    let _ ← orNone exponent) <|>
  (do
    fraction
    let _ ← orNone exponent)

def number : Parser SyntaxNode := do
  skipTrivia
  let start ← get
  numberBody
  let _ ← takeWhile fun c => ['u', 'U', 'l', 'L', 'f', 'F', 'd', 'D', 'm', 'M'].contains c
  if (← isAhead (char Text.continuesIdentifier)) then failure
  nodeFrom .literal start []

def escape : Parser Unit := do
  exactly ['\\']
  let _ ← char fun c => c != '\n'

def character : Parser SyntaxNode := do
  skipTrivia
  let start ← get
  exactly ['\'']
  let _ ← oneOrMore (escape <|> do let _ ← char fun c => c != '\'' && c != '\\' && !isLineEnd c)
  exactly ['\'']
  nodeFrom .literal start []

def encodingSuffix : Parser Unit := do
  let _ ← orNone (exactly ['u', '8'] <|> exactly ['U', '8'])

def regularString : Parser SyntaxNode := do
  skipTrivia
  let start ← get
  exactly ['"']
  let _ ← many (escape <|> do let _ ← takeSome fun c => c != '"' && c != '\\' && c != '\n')
  exactly ['"']
  encodingSuffix
  nodeFrom (.stringLiteral .regular) start []

def verbatimString : Parser SyntaxNode := do
  skipTrivia
  let start ← get
  exactly ['@', '"']
  let _ ← many (exactly ['"', '"'] <|> do let _ ← takeSome fun c => c != '"')
  exactly ['"']
  encodingSuffix
  nodeFrom (.stringLiteral .verbatim) start []

-- Reads a run of quotes that is shorter than the one that closes a raw string.
def shortQuotes (count : Nat) : Parser Unit := do
  if (← takeSome (· == '"')).length < count then return else failure

def rawString : Parser SyntaxNode := do
  skipTrivia
  let start ← get
  let opening ← takeSome (· == '"')
  if opening.length < 3 then failure
  let _ ← many (shortQuotes opening.length <|> do let _ ← takeSome fun c => c != '"')
  exactly opening
  let _ ← takeWhile (· == '"')
  encodingSuffix
  nodeFrom (.stringLiteral .raw) start []

def stringLiteral : Parser SyntaxNode := rawString <|> regularString <|> verbatimString

end ScriptAudit.Syntax
