import ScriptAudit.Syntax.Script
import ScriptAudit.TypeHierarchy

namespace ScriptAudit

structure TypeIndex where
  entries : List (String × List String)
deriving DecidableEq, Repr

-- Adds the texts that are not there yet, in their order.
def mergeBases (bases added : List String) : List String :=
  added.foldl (fun bases base => if base ∈ bases then bases else bases ++ [base]) bases

namespace TypeIndex

def empty : TypeIndex := ⟨[]⟩

def size (index : TypeIndex) : Nat := index.entries.length

def isEmpty (index : TypeIndex) : Bool := index.entries.isEmpty

def mergeAt (name : String) (bases : List String) : List (String × List String) → List (String × List String)
  | [] => [(name, mergeBases [] bases)]
  | entry :: rest =>
    if entry.1 = name then (name, mergeBases entry.2 bases) :: rest else entry :: mergeAt name bases rest

def addType (index : TypeIndex) (name : String) (bases : List String) : TypeIndex :=
  ⟨mergeAt (TypeName.normalize name) bases index.entries⟩

def declaredTypes (script : ParsedScript) : List (String × List String) :=
  script.typeDeclarations.filterMap fun declaration =>
    (declaration.declaredName script.source).map fun name =>
      (name, declaration.declaredBases script.source)

def addScript (index : TypeIndex) (script : ParsedScript) : TypeIndex :=
  (declaredTypes script).foldl (fun index (name, bases) => index.addType name bases) index

def ofScripts (scripts : List ParsedScript) : TypeIndex := scripts.foldl addScript empty

def baseTypes (index : TypeIndex) (name : String) : Option (List String) :=
  index.entries.lookup (TypeName.normalize name)

def hierarchy (index : TypeIndex) : TypeHierarchy where
  baseTypes := index.baseTypes
  names := index.entries.map (·.1)
  known name same found := by
    have held : ∀ entries : List (String × List String),
        (entries.lookup name).isSome → name ∈ entries.map (·.1) := by
      intro entries
      induction entries with
      | nil => simp
      | cons entry rest ih =>
        rw [List.lookup_cons]
        split
        · next equal => simp_all
        · intro deeper
          exact List.mem_cons_of_mem _ (ih deeper)
    rw [baseTypes, same] at found
    exact held index.entries found

end TypeIndex

-- Whether a declaration derives from the component base, by its own base list and then by a hierarchy.
def isComponentDeclaration (hierarchy : TypeHierarchy) (source : List Char) (declaration : SyntaxNode) :
    Bool :=
  let visited := ((declaration.declaredName source).map TypeName.normalize).toList
  hierarchy.reachesComponent (declaration.declaredBases source) visited

end ScriptAudit
