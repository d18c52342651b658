namespace ScriptAudit.Text

-- The pieces between separators, empty ones included: one more than there are separators.
def pieces (isSeparator : Char → Bool) : List Char → List (List Char)
  | [] => [[]]
  | c :: rest =>
    if isSeparator c then [] :: pieces isSeparator rest
    else
      match pieces isSeparator rest with
      | [] => [[c]]
      | piece :: others => (c :: piece) :: others

def beforeFirst (mark : Char) (text : List Char) : List Char := text.takeWhile (· != mark)

def afterLast (mark : Char) (text : List Char) : List Char :=
  (text.reverse.takeWhile (· != mark)).reverse

def beforePair (mark : Char) : List Char → List Char
  | [] => []
  | [c] => [c]
  | c :: d :: rest => if c == mark && d == mark then [] else c :: beforePair mark (d :: rest)

def afterLastPair (mark : Char) (text : List Char) : List Char :=
  (beforePair mark text.reverse).reverse

-- What stands before the occurrence of a mark that has `count` others before it.
def beforeNth (mark : Char) : Nat → List Char → List Char
  | _, [] => []
  | 0, c :: rest => if c == mark then [] else c :: beforeNth mark 0 rest
  | count + 1, c :: rest =>
    if c == mark then c :: beforeNth mark count rest else c :: beforeNth mark (count + 1) rest

-- The longest tail with at most one occurrence of a mark.
def lastTwoSegments (mark : Char) (text : List Char) : List Char :=
  (beforeNth mark 1 text.reverse).reverse

end ScriptAudit.Text
