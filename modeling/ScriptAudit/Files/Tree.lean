import ScriptAudit.Text.Pieces

namespace ScriptAudit

inductive FileEntry where
  | file (bytes : List UInt8)
  | directory
  | link (target : String)
deriving DecidableEq, Repr

inductive FileFailure where
  | notFound
  | notDirectory
  | isDirectory
  | tooManyLinks
deriving DecidableEq, Repr

def FileFailure.message : FileFailure → String
  | .notFound => "No such file or directory (os error 2)"
  | .notDirectory => "Not a directory (os error 20)"
  | .isDirectory => "Is a directory (os error 21)"
  | .tooManyLinks => "Too many levels of symbolic links (os error 40)"

-- A place below the working directory, by the names that lead to it.
abbrev FilePlace := List String

structure FileTree where
  entries : List (FilePlace × FileEntry)
deriving DecidableEq, Repr

-- A step along a path. The last step of a path that ends in a slash stays where it is.
inductive PathStep where
  | stay
  | up
  | into (name : String)
deriving DecidableEq, Repr

namespace PathStep

def ofPart (part : List Char) : PathStep :=
  if part.isEmpty || part == ['.'] then .stay
  else if part == ['.', '.'] then .up
  else .into (String.ofList part)

-- The steps of a path; none for the empty path. A path from the root of the system leads nowhere.
def ofPath (path : String) : Option (List PathStep) :=
  match path.toList with
  | [] => none
  | '/' :: _ => none
  | text => some ((Text.pieces (· == '/') text).map ofPart)

end PathStep

namespace FileTree

def empty : FileTree := ⟨[]⟩

-- What stands at a place, no link followed.
def entry? (tree : FileTree) (place : FilePlace) : Option FileEntry :=
  if place.isEmpty then some .directory else tree.entries.lookup place

def follow (tree : FileTree) (links : Nat) (place : FilePlace) (steps : List PathStep) :
    Except FileFailure FilePlace :=
  match steps with
  | [] => .ok place
  | step :: rest =>
    if tree.entry? place != some .directory then .error .notDirectory
    else
      match step with
      | .stay => tree.follow links place rest
      | .up => if place.isEmpty then .error .notFound else tree.follow links place.dropLast rest
      | .into name =>
        match tree.entry? (place ++ [name]), links with
        | none, _ => .error .notFound
        | some (.link _), 0 => .error .tooManyLinks
        | some (.link target), links + 1 =>
          match PathStep.ofPath target with
          | none => .error .notFound
          | some aim => tree.follow links place (aim ++ rest)
        | some _, links => tree.follow links (place ++ [name]) rest
termination_by (links, steps.length)

def linkLimit : Nat := 40

def resolve (tree : FileTree) (path : String) : Except FileFailure FilePlace :=
  match PathStep.ofPath path with
  | none => .error .notFound
  | some steps => tree.follow linkLimit [] steps

def stat (tree : FileTree) (path : String) : Except FileFailure FileEntry := do
  match tree.entry? (← tree.resolve path) with
  | some entry => return entry
  | none => .error .notFound

def exists? (tree : FileTree) (path : String) : Bool := (tree.stat path).isOk

def isFile (tree : FileTree) (path : String) : Bool :=
  match tree.stat path with
  | .ok (.file _) => true
  | _ => false

def isDirectory (tree : FileTree) (path : String) : Bool :=
  match tree.stat path with
  | .ok .directory => true
  | _ => false

def read (tree : FileTree) (path : String) : Except FileFailure (List UInt8) := do
  match ← tree.stat path with
  | .file bytes => return bytes
  | .directory => .error .isDirectory
  | .link _ => .error .notFound

def list (tree : FileTree) (place : FilePlace) : List String :=
  tree.entries.filterMap fun entry =>
    if entry.1.dropLast == place then entry.1.getLast? else none

def set (tree : FileTree) (place : FilePlace) (entry : FileEntry) : FileTree :=
  if place.isEmpty then tree
  else ⟨(tree.entries.filter (·.1 != place)) ++ [(place, entry)]⟩

def remove (tree : FileTree) (place : FilePlace) : FileTree :=
  ⟨tree.entries.filter fun entry => !place.isPrefixOf entry.1⟩

def makeDirectories (tree : FileTree) (place : FilePlace) : FileTree :=
  (List.range place.length).foldl (fun tree count =>
    let parent := place.take (count + 1)
    if (tree.entry? parent).isSome then tree else tree.set parent .directory) tree

-- The place that a path names for a change: links are followed, but for one in the last step and where
-- directories are still to be made.
def placeFor (tree : FileTree) (path : String) : FilePlace :=
  let names := ((PathStep.ofPath path).getD []).foldl (fun names step =>
    match step with
    | .stay => names
    | .up => names.dropLast
    | .into name => names ++ [name]) []
  match names.getLast? with
  | none => []
  | some last =>
    match tree.follow linkLimit [] (names.dropLast.map .into) with
    | .ok parent => parent ++ [last]
    | .error _ => names

def put (tree : FileTree) (path : String) (entry : FileEntry) : FileTree :=
  let place := tree.placeFor path
  (tree.makeDirectories place.dropLast).set place entry

def delete (tree : FileTree) (path : String) : FileTree := tree.remove (tree.placeFor path)

end FileTree

end ScriptAudit
