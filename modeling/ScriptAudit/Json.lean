namespace ScriptAudit

inductive Json where
  | null
  | bool (value : Bool)
  | number (value : Nat)
  | string (value : String)
  | array (elements : List Json)
  | object (fields : List (String × Json))

namespace Json

def ofOption : Option String → Json
  | none => .null
  | some text => .string text

def hexDigit (n : Nat) : Char := (Nat.digitChar n)

-- The text of a character within quotes. Below U+0020 five have a short form, the others are written in
-- hexadecimal; from there on only the quote and the backslash are escaped.
def escape (c : Char) : List Char :=
  if c == '"' then ['\\', '"']
  else if c == '\\' then ['\\', '\\']
  else if c == '\n' then ['\\', 'n']
  else if c == '\r' then ['\\', 'r']
  else if c == '\t' then ['\\', 't']
  else if c.toNat == 8 then ['\\', 'b']
  else if c.toNat == 12 then ['\\', 'f']
  else if c.toNat < 32 then ['\\', 'u', '0', '0', hexDigit (c.toNat / 16), hexDigit (c.toNat % 16)]
  else [c]

def quote (text : String) : String :=
  String.ofList ('"' :: text.toList.flatMap escape ++ ['"'])

def indent (level : Nat) : String := "".pushn ' ' (2 * level)

def enclose (opening closing : String) (level : Nat) (lines : List String) : String :=
  if lines.isEmpty then opening ++ closing
  else
    let inner := String.intercalate (",\n" ++ indent (level + 1)) lines
    opening ++ "\n" ++ indent (level + 1) ++ inner ++ "\n" ++ indent level ++ closing

mutual

def renderAt (level : Nat) : Json → String
  | .null => "null"
  | .bool value => if value then "true" else "false"
  | .number value => toString value
  | .string value => quote value
  | .array elements => enclose "[" "]" level (renderElements (level + 1) elements)
  | .object fields => enclose "\x7b" "\x7d" level (renderFields (level + 1) fields)

def renderElements (level : Nat) : List Json → List String
  | [] => []
  | element :: rest => renderAt level element :: renderElements level rest

def renderFields (level : Nat) : List (String × Json) → List String
  | [] => []
  | (name, value) :: rest =>
    (quote name ++ ": " ++ renderAt level value) :: renderFields level rest

end

def render (document : Json) : String := renderAt 0 document

end Json

end ScriptAudit
