import ScriptAudit.Text.Pieces

namespace ScriptAudit

inductive PathComponent where
  | root
  | current
  | parent
  | name (text : String)
deriving DecidableEq, Repr

namespace PathComponent

def rank : PathComponent → Nat
  | .root => 0
  | .current => 1
  | .parent => 2
  | .name _ => 3

def text : PathComponent → String
  | .root => "/"
  | .current => "."
  | .parent => ".."
  | .name text => text

def precedes (a b : PathComponent) : Bool :=
  decide (a.rank < b.rank) || (a.rank == b.rank && decide (a.text < b.text))

def ofPart (part : List Char) : PathComponent :=
  if part == ['.', '.'] then .parent else .name (String.ofList part)

end PathComponent

namespace Path

open Text

def components (path : String) : List PathComponent :=
  let parts := pieces (· == '/') path.toList
  let named := (parts.filter fun part => !part.isEmpty && part != ['.']).map PathComponent.ofPart
  match parts with
  | [] :: _ :: _ => .root :: named
  | ['.'] :: _ => .current :: named
  | _ => named

def fileName (path : String) : Option String :=
  match (components path).getLast? with
  | some (.name text) => some text
  | _ => none

-- What follows the last dot of the file name, where that dot is not its first character.
def extension (path : String) : Option String :=
  match fileName path with
  | none => none
  | some name =>
    let stem := (name.toList.reverse.dropWhile (· != '.')).drop 1
    if stem.isEmpty then none else some (String.ofList (afterLast '.' name.toList))

def join (directory entry : String) : String :=
  if directory.isEmpty || directory.toList.getLast? == some '/' then directory ++ entry
  else directory ++ "/" ++ entry

-- The directory that holds what a path names; for a bare name, the working directory.
def directory (path : String) : String :=
  let trimmed := path.toList.reverse.dropWhile (· == '/')
  let parent := (trimmed.dropWhile (· != '/')).dropWhile (· == '/')
  if parent.isEmpty then (if path.toList.head? == some '/' then "/" else ".") else String.ofList parent.reverse

def componentsLe : List PathComponent → List PathComponent → Bool
  | [], _ => true
  | _ :: _, [] => false
  | a :: as, b :: bs => a.precedes b || (a == b && componentsLe as bs)

def le (a b : String) : Bool := componentsLe (components a) (components b)

def sort (paths : List String) : List String := paths.mergeSort le

end Path

end ScriptAudit
