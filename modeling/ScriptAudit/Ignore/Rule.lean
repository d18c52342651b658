import ScriptAudit.Ignore.Glob
import ScriptAudit.Text.Blank
import ScriptAudit.Text.Pieces

namespace ScriptAudit

structure IgnoreRule where
  glob : Glob
  keeps : Bool
  onlyDirectories : Bool
deriving Repr

inductive IgnoreVerdict where
  | silent
  | ignored
  | kept
deriving DecidableEq, Repr

namespace IgnoreVerdict

def orElse (first second : IgnoreVerdict) : IgnoreVerdict :=
  match first with
  | .silent => second
  | verdict => verdict

def invert : IgnoreVerdict → IgnoreVerdict
  | .silent => .silent
  | .ignored => .kept
  | .kept => .ignored

end IgnoreVerdict

namespace IgnoreRule

inductive Reading where
  | nothing
  | invalid
  | rule (rule : IgnoreRule)
deriving Repr

def endsWith (tail text : List Char) : Bool := tail.reverse.isPrefixOf text.reverse

-- A line without white space at its end, which a backslash before a last blank keeps.
def withoutTail (line : List Char) : List Char :=
  if endsWith ['\\', ' '] line then line else Text.trimEnd line

def readMarks (line : List Char) : Bool × Bool × List Char :=
  let (keeps, glob) :=
    match line with
    | '!' :: rest => (true, rest)
    | _ => (false, line)
  match line with
  | '\\' :: '!' :: rest => (false, false, '!' :: rest)
  | '\\' :: '#' :: rest => (false, false, '#' :: rest)
  | _ =>
    match glob with
    | '/' :: rest => (keeps, true, rest)
    | _ => (keeps, false, glob)

def readEnd (glob : List Char) : Bool × List Char :=
  if endsWith ['\\', '/'] glob then (true, glob.dropLast.dropLast)
  else if endsWith ['/'] glob then (true, glob.dropLast)
  else (false, glob)

def atAnyDepth (isAnchored : Bool) (glob : List Char) : List Char :=
  if isAnchored || glob.contains '/' || glob == ['*', '*'] then glob else ['*', '*', '/'] ++ glob

-- A glob that ends in two stars is for what lies in a directory, not for the directory.
def onlyBelow (glob : List Char) : List Char :=
  if endsWith ['/', '*', '*'] glob then glob ++ ['/', '*'] else glob

def read (line : List Char) : Reading :=
  if line.head? == some '#' then .nothing
  else
    let line := withoutTail line
    if line.isEmpty then .nothing
    else
      let (keeps, isAnchored, marked) := readMarks line
      let (onlyDirectories, named) := readEnd marked
      match Glob.read (onlyBelow (atAnyDepth isAnchored named)) with
      | none => .invalid
      | some glob => .rule ⟨glob, keeps, onlyDirectories⟩

def applies (rule : IgnoreRule) (path : List UInt8) (isDirectory : Bool) : Bool :=
  (!rule.onlyDirectories || isDirectory) && rule.glob.covers path

def verdict (rule : IgnoreRule) : IgnoreVerdict := if rule.keeps then .kept else .ignored

def judge (rules : List IgnoreRule) (path : List UInt8) (isDirectory : Bool) : IgnoreVerdict :=
  match rules.reverse.find? (·.applies path isDirectory) with
  | none => .silent
  | some rule => rule.verdict

-- The rules of the lines that can be read, up to the first line that is no text.
def ofLines : List (List UInt8) → List IgnoreRule
  | [] => []
  | line :: rest =>
    match Text.Utf8.decode line with
    | none => []
    | some text =>
      match read text with
      | .rule rule => rule :: ofLines rest
      | _ => ofLines rest

def splitLines : List UInt8 → List (List UInt8)
  | [] => [[]]
  | b :: rest =>
    match splitLines rest with
    | [] => [[b]]
    | line :: others => if b == 10 then [] :: line :: others else (b :: line) :: others

def withoutMark : List UInt8 → List UInt8
  | 0xEF :: 0xBB :: 0xBF :: rest => withoutMark rest
  | bytes => bytes

def ofFile (bytes : List UInt8) : List IgnoreRule := ofLines (splitLines (withoutMark bytes))

end IgnoreRule

end ScriptAudit
