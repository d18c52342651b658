import ScriptAudit.Text.Utf8

namespace ScriptAudit

inductive GlobToken where
  | literal (c : Char)
  | anyByte
  | anyName
  -- Two stars at the start: nothing, a slash, or anything up to a slash.
  | leadingDirectories
  -- Two stars at the end: a slash and anything.
  | allBelow
  -- Two stars between slashes: a slash, or anything between two slashes.
  | innerDirectories
  | oneOf (isNegated : Bool) (ranges : List (Char × Char))
  | alternatives (branches : List (List GlobToken))
deriving Repr

abbrev Glob := List GlobToken

namespace Glob

-- Reading. The branches that are open are kept with the last one first, each with its last token first; the
-- counts say how many of them belong to each open brace.

structure Reading where
  branches : List (List GlobToken)
  braces : List Nat
deriving Repr

namespace Reading

def start : Reading := ⟨[[]], []⟩

def push (reading : Reading) (token : GlobToken) : Reading :=
  match reading.branches with
  | [] => reading
  | branch :: rest => { reading with branches := (token :: branch) :: rest }

def push2 (reading : Reading) (token : GlobToken) : Reading := (reading.push token).push token

def isAtStart (reading : Reading) : Bool :=
  match reading.branches with
  | [] => true
  | branch :: _ => branch.isEmpty

def isNested (reading : Reading) : Bool := 2 ≤ reading.branches.length

def openBrace (reading : Reading) : Reading := ⟨[] :: reading.branches, 1 :: reading.braces⟩

def nextBranch (reading : Reading) : Reading :=
  match reading.braces with
  | [] => reading.push (.literal ',')
  | count :: rest => ⟨[] :: reading.branches, (count + 1) :: rest⟩

def closeBrace (reading : Reading) : Option Reading :=
  match reading.braces with
  | [] => none
  | count :: rest =>
    let alternatives := ((reading.branches.take count).map List.reverse).reverse
    some ((Reading.mk (reading.branches.drop count) rest).push (.alternatives alternatives))

-- Two stars behind a slash take the place of the slash, and of two stars in front of it.
def pushStars (reading : Reading) (token : GlobToken) : Reading :=
  match reading.branches with
  | (last :: branch) :: rest =>
    let kept :=
      match last with
      | .leadingDirectories => .leadingDirectories
      | .allBelow => .allBelow
      | _ => token
    { reading with branches := (kept :: branch) :: rest }
  | _ => reading

def finish (reading : Reading) : Option Glob :=
  match reading.branches with
  | [branch] => some branch.reverse
  | _ => none

end Reading

-- A class behind its opening bracket, and what follows it. A closing bracket in the first place is literal.
def readClass : (isFirst inRange : Bool) → List (Char × Char) → List Char →
    Option (List (Char × Char) × List Char)
  | _, _, _, [] => none
  | isFirst, inRange, ranges, c :: rest =>
    if c == ']' && !isFirst then
      some ((if inRange then ('-', '-') :: ranges else ranges).reverse, rest)
    else if c == '-' && !isFirst && !inRange then readClass false true ranges rest
    else if inRange then
      match ranges with
      | [] => none
      | (low, _) :: others => if c < low then none else readClass false false ((low, c) :: others) rest
    else readClass false false ((c, c) :: ranges) rest

theorem length_readClass {isFirst inRange : Bool} {ranges : List (Char × Char)} {text : List Char}
    {found : List (Char × Char) × List Char} (read : readClass isFirst inRange ranges text = some found) :
    found.2.length < text.length := by
  induction text generalizing isFirst inRange ranges with
  | nil => simp [readClass] at read
  | cons c rest ih =>
    unfold readClass at read
    split at read
    · cases read
      simp
    · split at read
      · exact Nat.lt_succ_of_lt (ih read)
      · split at read
        · split at read
          · cases read
          · split at read
            · cases read
            · exact Nat.lt_succ_of_lt (ih read)
        · exact Nat.lt_succ_of_lt (ih read)

def isNegation (c : Char) : Bool := c == '!' || c == '^'

-- Reads a glob, where the character before the text is given. Fails where a class or a brace is not closed, a
-- range is reversed, a brace is not opened, or a backslash ends the text.
def readFrom (before : Option Char) (reading : Reading) (text : List Char) : Option Reading :=
  match text with
  | [] => some reading
  | '?' :: rest => readFrom (some '?') (reading.push .anyByte) rest
  | '*' :: '*' :: rest =>
    if reading.isAtStart then
      match rest with
      | [] => some (reading.push .leadingDirectories)
      | '/' :: others => readFrom (some '/') (reading.push .leadingDirectories) others
      | c :: others => readFrom (some '*') (reading.push2 .anyName) (c :: others)
    else if before != some '/' && !(reading.isNested && (before == some ',' || before == some '{')) then
      readFrom (some '*') (reading.push2 .anyName) rest
    else
      match rest with
      | [] => some (reading.pushStars .allBelow)
      | '/' :: others => readFrom (some '/') (reading.pushStars .innerDirectories) others
      | c :: others =>
        if (c == ',' || c == '}') && reading.isNested then
          readFrom (some '*') (reading.pushStars .allBelow) (c :: others)
        else readFrom (some '*') (reading.push2 .anyName) (c :: others)
  | '*' :: rest => readFrom (some '*') (reading.push .anyName) rest
  | '[' :: rest =>
    let isNegated := (rest.head?.map isNegation).getD false
    let inner := if isNegated then rest.tail else rest
    match read : readClass true false [] inner with
    | none => none
    | some (ranges, others) =>
      have : others.length < rest.length + 1 := by
        have shorter := length_readClass read
        have bound : inner.length ≤ rest.length := by
          simp only [inner]
          split <;> simp
        simp only at shorter
        omega
      readFrom (some ']') (reading.push (.oneOf isNegated ranges)) others
  | '{' :: rest => readFrom (some '{') reading.openBrace rest
  | '}' :: rest =>
    match reading.closeBrace with
    | none => none
    | some reading => readFrom (some '}') reading rest
  | ',' :: rest => readFrom (some ',') reading.nextBranch rest
  | '\\' :: rest =>
    match rest with
    | [] => none
    | c :: others => readFrom (some c) (reading.push (.literal c)) others
  | c :: rest => readFrom (some c) (reading.push (.literal c)) rest
termination_by text.length

def read (text : List Char) : Option Glob := (readFrom none .start text).bind Reading.finish

-- Matching. A set of tails stands for the places in a path that have been reached.

abbrev Tails := List (List UInt8)

def distinct (tails : Tails) : Tails :=
  tails.foldl (fun kept tail => if kept.any (·.length == tail.length) then kept else tail :: kept) []

def slash : UInt8 := 47

def withinName : List UInt8 → Tails
  | [] => [[]]
  | b :: rest => if b == slash then [b :: rest] else (b :: rest) :: withinName rest

def allTails : List UInt8 → Tails
  | [] => [[]]
  | b :: rest => (b :: rest) :: allTails rest

def behindSlashes : List UInt8 → Tails
  | [] => []
  | b :: rest => if b == slash then rest :: behindSlashes rest else behindSlashes rest

def bytesOf (c : Char) : List UInt8 := Text.Utf8.encode (String.singleton c)

-- The ranges of bytes that a range of characters stands for: the bytes of its ends, where the range itself runs
-- from the last byte of the one to the first byte of the other.
def byteRanges (range : Char × Char) : List (UInt8 × UInt8) :=
  let low := bytesOf range.1
  let high := bytesOf range.2
  if range.1 == range.2 then low.map fun b => (b, b)
  else
    (low.dropLast.map fun b => (b, b)) ++ [(low.getLastD 0, high.headD 0)] ++
      (high.tail.map fun b => (b, b))

def inByteRanges (ranges : List (Char × Char)) (b : UInt8) : Bool :=
  (ranges.flatMap byteRanges).any fun range => range.1 ≤ b && b ≤ range.2

def dropLiteral (c : Char) (tail : List UInt8) : Option (List UInt8) :=
  let bytes := bytesOf c
  if bytes.isPrefixOf tail then some (tail.drop bytes.length) else none

def afterOne (test : UInt8 → Bool) : List UInt8 → Option (List UInt8)
  | [] => none
  | b :: rest => if test b then some rest else none

def behindLeading (tail : List UInt8) : Tails :=
  tail :: ((afterOne (· == slash) tail).toList ++ behindSlashes tail)

def behindAllBelow (tail : List UInt8) : Tails :=
  match afterOne (· == slash) tail with
  | none => []
  | some rest => allTails rest

def behindInner (tail : List UInt8) : Tails :=
  match afterOne (· == slash) tail with
  | none => []
  | some rest => rest :: behindSlashes rest

mutual

def isVoid : GlobToken → Bool
  | .alternatives branches => areVoid branches
  | _ => false

def areVoid : List (List GlobToken) → Bool
  | [] => true
  | branch :: rest => isVoidBranch branch && areVoid rest

def isVoidBranch : List GlobToken → Bool
  | [] => true
  | token :: rest => isVoid token && isVoidBranch rest

end

mutual

def advance (tails : Tails) : GlobToken → Tails
  | .literal c => tails.filterMap (dropLiteral c)
  | .anyByte => tails.filterMap (afterOne (· != slash))
  | .anyName => tails.flatMap withinName
  | .leadingDirectories => tails.flatMap behindLeading
  | .allBelow => tails.flatMap behindAllBelow
  | .innerDirectories => tails.flatMap behindInner
  | .oneOf isNegated ranges => tails.filterMap (afterOne fun b => inByteRanges ranges b != isNegated)
  | .alternatives branches => if areVoid branches then tails else advanceAny tails branches

-- An empty branch beside others is dropped.
def advanceAny (tails : Tails) : List (List GlobToken) → Tails
  | [] => []
  | branch :: rest =>
    (if isVoidBranch branch then [] else advanceAll tails branch) ++ advanceAny tails rest

def advanceAll (tails : Tails) : List GlobToken → Tails
  | [] => tails
  | token :: rest => advanceAll (distinct (advance tails token)) rest

end

-- Whether a glob stands for a whole path. Two stars alone stand for every path.
def covers (glob : Glob) (path : List UInt8) : Bool :=
  match glob with
  | [.leadingDirectories] => true
  | glob => (advanceAll [path] glob).any List.isEmpty

end Glob

end ScriptAudit
