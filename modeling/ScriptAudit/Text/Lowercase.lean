import ScriptAudit.Text.Lowercase.Table
import ScriptAudit.Text.Letters

namespace ScriptAudit.Text

namespace Lowercase

def imageOf (n : Nat) : Nat :=
  match runs.find? fun run => run.1 ≤ n && n ≤ run.2.1 && (n - run.1) % run.2.2.1 == 0 with
  | some run => run.2.2.2 + (n - run.1)
  | none => n

def ofChar (c : Char) : List Char :=
  if c.toNat < 0x80 then [c.toLower]
  else if c.toNat == 0x130 then ['i', Char.ofNat 0x307]
  else [Char.ofNat (imageOf c.toNat)]

def isCased (c : Char) : Bool := inRanges casedRanges c.toNat

def isIgnorable (c : Char) : Bool := inRanges ignorableRanges c.toNat

-- Whether the first character that case does not ignore is cased.
def meetsCased (text : List Char) : Bool :=
  match text.dropWhile isIgnorable with
  | [] => false
  | c :: _ => isCased c

def capitalSigma : Char := 'Σ'

-- The first argument holds the characters already passed, the nearest first.
def lowerFrom (passed : List Char) : List Char → List Char
  | [] => []
  | c :: rest =>
    let image :=
      if c == capitalSigma then
        if meetsCased passed && !meetsCased rest then ['ς'] else ['σ']
      else ofChar c
    image ++ lowerFrom (c :: passed) rest

end Lowercase

def lower (text : List Char) : List Char := Lowercase.lowerFrom [] text

end ScriptAudit.Text
