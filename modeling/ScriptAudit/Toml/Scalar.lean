import ScriptAudit.Text.Parser
import ScriptAudit.Toml.Value

namespace ScriptAudit.Toml

open Text (Parser)
open Text.Parser

-- Blanks and comments. A lone carriage return ends no line.

def isBlank (c : Char) : Bool := c == ' ' || c == '\t'

def blanks : Parser Unit := do
  let _ ← takeWhile isBlank

def lineBreak : Parser Unit := exactly ['\n'] <|> exactly ['\r', '\n']

-- Characters that may stand in a comment or a string: no controls but the tab.
def isPlain (c : Char) : Bool := c == '\t' || (' ' ≤ c && c.toNat != 0x7F)

def comment : Parser Unit := do
  exactly ['#']
  let _ ← takeWhile isPlain

def gap : Parser Unit := do
  let _ ← many ((do let _ ← takeSome isBlank) <|> lineBreak <|> comment)

def isHexDigit (c : Char) : Bool := c.isDigit || ('a' ≤ c && c ≤ 'f') || ('A' ≤ c && c ≤ 'F')

def hexValue (c : Char) : Nat :=
  if c.isDigit then c.toNat - '0'.toNat else c.toLower.toNat - 'a'.toNat + 10

def hexNumber : Nat → Nat → Parser Nat
  | 0, value => return value
  | count + 1, value => do
    let digit ← char isHexDigit
    hexNumber count (value * 16 + hexValue digit)

def codePoint (digits : Nat) : Parser Char := do
  let value ← hexNumber digits 0
  if value.isValidChar then return Char.ofNat value else failure

def escape : Parser Char := do
  exactly ['\\']
  match ← char fun _ => true with
  | 'b' => return Char.ofNat 8
  | 't' => return '\t'
  | 'n' => return '\n'
  | 'f' => return Char.ofNat 12
  | 'r' => return '\r'
  | '"' => return '"'
  | '\\' => return '\\'
  | 'u' => codePoint 4
  | 'U' => codePoint 8
  | _ => failure

def basicString : Parser String := do
  exactly ['"']
  let pieces ← many (takeSome (fun c => isPlain c && c != '"' && c != '\\') <|> do return [← escape])
  exactly ['"']
  return String.ofList pieces.flatten

def literalString : Parser String := do
  exactly ['\'']
  let text ← takeWhile fun c => isPlain c && c != '\''
  exactly ['\'']
  return String.ofList text

def brokenLine : Parser (List Char) := do
  lineBreak
  return ['\n']

-- A backslash at the end of a line, which takes all blanks and line breaks behind it.
def joinedLine : Parser (List Char) := do
  exactly ['\\']
  blanks
  lineBreak
  let _ ← many ((do let _ ← takeSome isBlank) <|> lineBreak)
  return []

def innerQuotes (quote : Char) : Parser (List Char) := do
  let run ← takeSome (· == quote)
  if run.length < 3 then return run else failure

-- The three quotes that close a string, with up to two in front that belong to it.
def closingQuotes (quote : Char) : Parser (List Char) := do
  let run ← takeSome (· == quote)
  if 3 ≤ run.length && run.length ≤ 5 then return run.drop 3 else failure

def longString (quote : Char) (piece : Parser (List Char)) : Parser String := do
  exactly [quote, quote, quote]
  let _ ← orNone lineBreak
  let pieces ← many (piece <|> brokenLine <|> innerQuotes quote)
  let last ← closingQuotes quote
  return String.ofList (pieces.flatten ++ last)

def longBasicString : Parser String :=
  longString '"' (takeSome (fun c => isPlain c && c != '"' && c != '\\') <|> joinedLine <|> do
    return [← escape])

def longLiteralString : Parser String := longString '\'' (takeSome fun c => isPlain c && c != '\'')

def string : Parser String := longBasicString <|> basicString <|> longLiteralString <|> literalString

def isBareKey (c : Char) : Bool := c.isAlphanum || c == '_' || c == '-'

def simpleKey : Parser String := do
  blanks
  let key ← basicString <|> literalString <|> (do return String.ofList (← takeSome isBareKey))
  blanks
  return key

-- The greatest depth to which keys and values may nest.
def depthLimit : Nat := 79

def key : Parser (List String × String) := do
  let first ← simpleKey
  let others ← many do
    exactly ['.']
    simpleKey
  let parts := first :: others
  match parts.getLast? with
  | some last => if parts.length ≤ depthLimit then return (parts.dropLast, last) else failure
  | none => failure

-- Numbers. Underscores stand between digits only.

def digitRun (isDigit : Char → Bool) : Parser (List Char) := do
  let first ← takeSome isDigit
  let others ← many do
    exactly ['_']
    takeSome isDigit
  return first ++ others.flatten

def sign : Parser Bool := do
  match ← orNone (char fun c => c == '+' || c == '-') with
  | some '-' => return true
  | _ => return false

def decimalDigits : Parser (List Char) := do
  match (← ahead).head? with
  | some '0' => return [← char fun _ => true]
  | _ => digitRun Char.isDigit

def numberOf (base : Nat) (digits : List Char) : Nat :=
  digits.foldl (fun value digit => value * base + hexValue digit) 0

def inRange (value : Int) : Option TomlValue :=
  if -9223372036854775808 ≤ value ∧ value ≤ 9223372036854775807 then some (.integer value) else none

def prefixedInteger (mark : Char) (base : Nat) (isDigit : Char → Bool) : Parser TomlValue := do
  exactly ['0', mark]
  let digits ← digitRun isDigit
  fun place => (inRange (numberOf base digits)).map (·, place)

def decimalInteger : Parser TomlValue := do
  let isNegative ← sign
  let value : Int := numberOf 10 (← decimalDigits)
  fun place => (inRange (if isNegative then -value else value)).map (·, place)

def integer : Parser TomlValue :=
  prefixedInteger 'x' 16 isHexDigit <|>
  prefixedInteger 'o' 8 (fun c => '0' ≤ c && c ≤ '7') <|>
  prefixedInteger 'b' 2 (fun c => c == '0' || c == '1') <|>
  decimalInteger

-- The least number that is too great for a float of double precision, since it rounds to infinity.
def floatBound : Nat := Nat.pow 2 1024 - Nat.pow 2 970

def overflows (digits : Nat) (exponent : Int) : Bool :=
  let places := (Nat.toDigits 10 digits).length
  if digits == 0 || exponent + places < 300 then false
  else if 320 < exponent + places then true
  else if 0 ≤ exponent then floatBound ≤ digits * Nat.pow 10 exponent.toNat
  else floatBound * Nat.pow 10 (-exponent).toNat ≤ digits

def exponentPart : Parser Int := do
  let _ ← char fun c => c == 'e' || c == 'E'
  let isNegative ← sign
  let value : Int := numberOf 10 (← digitRun Char.isDigit)
  return if isNegative then -value else value

def fractionPart : Parser (List Char) := do
  exactly ['.']
  digitRun Char.isDigit

def decimalFloat : Parser TomlValue := do
  let isNegative ← sign
  let whole ← decimalDigits
  let fraction ← orNone fractionPart
  let exponent ← orNone exponentPart
  if fraction.isNone && exponent.isNone then failure
  let digits := whole ++ fraction.getD []
  let shift : Int := exponent.getD 0 - (fraction.getD []).length
  if !isNegative && overflows (numberOf 10 digits) shift then failure else return .float

def specialFloat : Parser TomlValue := do
  let _ ← sign
  exactly "inf".toList <|> exactly "nan".toList
  return .float

def fixedDigits : Nat → Nat → Parser Nat
  | 0, value => return value
  | count + 1, value => do
    let digit ← char Char.isDigit
    fixedDigits count (value * 10 + (digit.toNat - '0'.toNat))

def numberWithin (digits least greatest : Nat) : Parser Nat := do
  let value ← fixedDigits digits 0
  if least ≤ value && value ≤ greatest then return value else failure

def isLeapYear (year : Nat) : Bool := year % 4 == 0 && (year % 100 != 0 || year % 400 == 0)

def daysIn (year month : Nat) : Nat :=
  if month == 2 then if isLeapYear year then 29 else 28
  else if [4, 6, 9, 11].contains month then 30
  else 31

def date : Parser Unit := do
  let year ← fixedDigits 4 0
  exactly ['-']
  let month ← numberWithin 2 1 12
  exactly ['-']
  let _ ← numberWithin 2 1 (daysIn year month)

def timeOfDay : Parser Unit := do
  let _ ← numberWithin 2 0 23
  exactly [':']
  let _ ← numberWithin 2 0 59
  exactly [':']
  let _ ← numberWithin 2 0 60
  let _ ← orNone do
    exactly ['.']
    takeSome Char.isDigit

def zone : Parser Unit :=
  (do let _ ← char fun c => c == 'Z' || c == 'z') <|>
  (do
    let _ ← char fun c => c == '+' || c == '-'
    let _ ← numberWithin 2 0 23
    exactly [':']
    let _ ← numberWithin 2 0 59)

def dateTime : Parser TomlValue :=
  (do
    date
    let _ ← orNone do
      let _ ← char fun c => c == 'T' || c == 't' || c == ' '
      timeOfDay
      let _ ← orNone zone
    return .dateTime) <|>
  (do
    timeOfDay
    return .dateTime)

def boolean : Parser TomlValue :=
  (do
    exactly "true".toList
    return .boolean true) <|>
  (do
    exactly "false".toList
    return .boolean false)

def scalar : Parser TomlValue :=
  (do return .string (← string)) <|> boolean <|> dateTime <|> decimalFloat <|> specialFloat <|> integer

end ScriptAudit.Toml
