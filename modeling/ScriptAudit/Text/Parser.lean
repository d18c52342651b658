namespace ScriptAudit.Text

structure Place where
  rest : List Char
  offset : Nat
  row : Nat
  byteColumn : Nat

namespace Place

def ofText (text : List Char) : Place := ⟨text, 0, 0, 0⟩

def behind (place : Place) (c : Char) (rest : List Char) : Place :=
  if c == '\n' then ⟨rest, place.offset + 1, place.row + 1, 0⟩
  else ⟨rest, place.offset + c.utf8Size, place.row, place.byteColumn + c.utf8Size⟩

end Place

abbrev Parser := StateT Place Option

namespace Parser

def char (test : Char → Bool) : Parser Char := fun place =>
  match place.rest with
  | [] => none
  | c :: rest => if test c then some (c, place.behind c rest) else none

def skipList : List Char → Place → Place
  | c :: rest, place => if place.rest.head? == some c then skipList rest (place.behind c place.rest.tail) else place
  | [], place => place

def exactly (text : List Char) : Parser Unit := fun place =>
  if text.isPrefixOf place.rest then some ((), skipList text place) else none

def takeFrom (test : Char → Bool) : List Char → Place → List Char → List Char × Place
  | [], place, taken => (taken.reverse, place)
  | c :: rest, place, taken =>
    if test c then takeFrom test rest (place.behind c rest) (c :: taken) else (taken.reverse, place)

def takeWhile (test : Char → Bool) : Parser (List Char) := fun place =>
  some (takeFrom test place.rest place [])

def takeSome (test : Char → Bool) : Parser (List Char) := do
  let taken ← takeWhile test
  if taken.isEmpty then failure else return taken

def ahead : Parser (List Char) := fun place => some (place.rest, place)

def peek {α : Type} (p : Parser α) : Parser (Option α) := fun place =>
  match p place with
  | none => some (none, place)
  | some (a, _) => some (some a, place)

def isAhead {α : Type} (p : Parser α) : Parser Bool := do
  return (← peek p).isSome

def orNone {α : Type} (p : Parser α) : Parser (Option α) := fun place =>
  match p place with
  | none => some (none, place)
  | some (a, next) => some (some a, next)

-- Applies a parser as long as it succeeds and gets on.
def many {α : Type} (p : Parser α) (place : Place) : Option (List α × Place) :=
  match p place with
  | none => some ([], place)
  | some (a, next) =>
    if next.rest.length < place.rest.length then
      match many p next with
      | none => none
      | some (rest, last) => some (a :: rest, last)
    else some ([], place)
termination_by place.rest.length

def extend {α : Type} (step : α → Parser α) (a : α) (place : Place) : Option (α × Place) :=
  match step a place with
  | none => some (a, place)
  | some (b, next) =>
    if next.rest.length < place.rest.length then extend step b next else some (a, place)
termination_by place.rest.length

def oneOrMore {α : Type} (p : Parser α) : Parser (List α) := do
  let first ← p
  return first :: (← many p)

end Parser

end ScriptAudit.Text
