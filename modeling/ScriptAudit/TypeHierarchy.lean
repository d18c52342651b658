import ScriptAudit.TypeName

namespace ScriptAudit

-- Declared bases by type name, with a list that holds every simple name of which some are known.
structure TypeHierarchy where
  baseTypes : String → Option (List String)
  names : List String
  known : ∀ name, TypeName.normalize name = name → (baseTypes name).isSome → name ∈ names

namespace TypeHierarchy

def ofTable (types : List (String × List String)) : TypeHierarchy where
  baseTypes name := types.lookup name
  names := types.map (·.1)
  known name _ found := by
    obtain ⟨bases, hit⟩ := Option.isSome_iff_exists.mp found
    clear found
    induction types with
    | nil => simp at hit
    | cons entry rest ih =>
      rw [List.lookup_cons] at hit
      split at hit
      · next same => simp_all
      · exact List.mem_cons_of_mem _ (ih hit)

-- Whether some base in a list is, or leads to, the component base, and the names visited by then. The
-- first argument bounds the nesting of the search.
def search (hierarchy : TypeHierarchy) (depth : Nat) (bases visited : List String) :
    Bool × List String :=
  match depth, bases with
  | _, [] => (false, visited)
  | depth, base :: rest =>
    if TypeName.isComponentRoot base then (true, visited)
    else if TypeName.normalize base ∈ visited then search hierarchy depth rest visited
    else
      let visited := TypeName.normalize base :: visited
      match hierarchy.baseTypes (TypeName.normalize base), depth with
      | none, depth => search hierarchy depth rest visited
      | some _, 0 => (false, visited)
      | some next, depth + 1 =>
        match search hierarchy depth next visited with
        | (true, visited) => (true, visited)
        | (false, visited) => search hierarchy (depth + 1) rest visited
termination_by (depth, bases.length)

-- The nesting that is enough: each level beyond the first visits a known name for the first time.
def depthBound (hierarchy : TypeHierarchy) : Nat := hierarchy.names.length + 1

def reachesComponent (hierarchy : TypeHierarchy) (bases visited : List String) : Bool :=
  (hierarchy.search hierarchy.depthBound bases visited).1

-- Whether a type derives from the component base. The name is looked up as it is given, and a type
-- that the hierarchy does not know is no component.
def isComponent (hierarchy : TypeHierarchy) (name : String) : Bool :=
  match hierarchy.baseTypes name with
  | none => false
  | some bases => hierarchy.reachesComponent bases [TypeName.normalize name]

end TypeHierarchy

end ScriptAudit
