import ScriptAudit.Proofs.Ancestry.Steps
import ScriptAudit.Proofs.TypeIndex.Merged

namespace ScriptAudit

open Text

namespace TypeName

-- A part of a text in which nothing is left to cut, so that it neither starts nor ends with white space.
structure IsCutOf (text part : List Char) : Prop extends IsSimple part where
  within : part <:+: text
  starts : ∀ c ∈ part.head?, isBlank c = false
  ends : ∀ c ∈ part.getLast?, isBlank c = false

theorem isCutOf_simple (name : List Char) : IsCutOf name (simple name) where
  toIsSimple := isSimple_simple name
  within := simple_isInfix name
  starts _ := not_blank_of_mem_head?_trim
  ends _ := not_blank_of_mem_getLast?_trim

theorem isCutOf_normalize (name : String) : IsCutOf name.toList (normalize name).toList := by
  rw [normalize, String.toList_ofList]
  exact isCutOf_simple name.toList

end TypeName

namespace TypeIndex

variable {name other : String}

-- No index tells the one name from the other.
def Alike (name other : String) : Prop := ∀ index : TypeIndex, index.baseTypes name = index.baseTypes other

theorem alike_iff : Alike name other ↔ TypeName.normalize name = TypeName.normalize other := by
  constructor
  · intro alike
    by_contra apart
    -- An index that knows the first name alone would know the other one.
    have known := alike (empty.addType name [])
    rw [baseTypes_addType, if_pos rfl, baseTypes_addType, if_neg (Ne.symm apart)] at known
    cases known
  · intro same index
    rw [baseTypes, baseTypes, same]

theorem isComponent_eq_of_alike (alike : Alike name other) (index : TypeIndex) :
    index.hierarchy.isComponent name = index.hierarchy.isComponent other := by
  have bases : index.hierarchy.baseTypes name = index.hierarchy.baseTypes other := alike index
  rw [TypeHierarchy.isComponent, TypeHierarchy.isComponent, bases, alike_iff.mp alike]

theorem normalize_mem_iff {held : List String} (simple : ∀ key ∈ held, TypeName.normalize key = key) (name : String) :
    TypeName.normalize name ∈ held ↔ ∃ key ∈ held, Alike key name := by
  constructor
  · intro member
    exact ⟨_, member, alike_iff.mpr (TypeName.normalize_normalize name)⟩
  · rintro ⟨key, member, alike⟩
    rwa [← alike_iff.mp alike, simple key member]

theorem normalize_of_mem_names {additions : List Addition} {key : String}
    (stored : key ∈ (empty.addAll additions).names) : TypeName.normalize key = key := by
  rw [addAll_eq, (firstAppearances_names _).covered] at stored
  obtain ⟨type, _, rfl⟩ := List.mem_map.mp stored
  exact TypeName.normalize_normalize type.1

theorem isSome_baseTypes_iff (additions : List Addition) (name : String) :
    ((empty.addAll additions).baseTypes name).isSome = true ↔
      TypeName.normalize name ∈ (empty.addAll additions).names := by
  rw [addAll_eq, known_addTypes, (firstAppearances_names _).covered, storedNames, List.mem_map]
  exact or_iff_right (by simp [baseTypes, empty])

end TypeIndex

namespace TypeHierarchy

-- A search that starts with simple names as visited ones visits simple names only.
theorem normalize_of_mem_visited {hierarchy : TypeHierarchy} {bases names : List String} {state : SearchState}
    (run : SearchState.Run hierarchy (.start bases (names.map TypeName.normalize)) state) {seen : String}
    (visited : seen ∈ state.visited) : TypeName.normalize seen = seen := by
  have tracked := SearchState.tracked_of_run run
  rw [tracked.added, List.mem_append] at visited
  rcases visited with lookedUp | first
  · exact tracked.simple seen lookedUp
  · obtain ⟨name, _, rfl⟩ := List.mem_map.mp first
    exact TypeName.normalize_normalize name

end TypeHierarchy

open TypeHierarchy (SearchState)
open TypeIndex (Addition Alike)

-- A search starts with the simple name of the type or of the declaration that it is about, where that has a name.
theorem simple_names_identify :
    (∀ name : String, TypeName.IsCutOf name.toList (TypeName.normalize name).toList ∧
      TypeName.normalize (TypeName.normalize name) = TypeName.normalize name) ∧
    (∀ name other, Alike name other ↔ TypeName.normalize name = TypeName.normalize other) ∧
    (∀ name other, TypeName.normalize name = TypeName.normalize other →
      ∀ index : TypeIndex, index.hierarchy.isComponent name = index.hierarchy.isComponent other) ∧
    (∀ additions : List Addition,
      (∀ key ∈ (TypeIndex.empty.addAll additions).names, TypeName.normalize key = key) ∧
      ∀ name, ((TypeIndex.empty.addAll additions).baseTypes name).isSome = true ↔
        ∃ key ∈ (TypeIndex.empty.addAll additions).names, Alike key name) ∧
    ∀ (hierarchy : TypeHierarchy) (bases names : List String) (state : SearchState),
      SearchState.Run hierarchy (.start bases (names.map TypeName.normalize)) state →
        (∀ seen ∈ state.visited, TypeName.normalize seen = seen) ∧
        ∀ base, TypeName.normalize base ∈ state.visited ↔ ∃ seen ∈ state.visited, Alike seen base := by
  refine ⟨?_, fun name other => TypeIndex.alike_iff, ?_, ?_, ?_⟩
  · intro name
    exact ⟨TypeName.isCutOf_normalize name, TypeName.normalize_normalize name⟩
  · intro name other same
    exact TypeIndex.isComponent_eq_of_alike (TypeIndex.alike_iff.mpr same)
  · intro additions
    have simple (key : String) (stored : key ∈ (TypeIndex.empty.addAll additions).names) :
        TypeName.normalize key = key := TypeIndex.normalize_of_mem_names stored
    refine ⟨simple, fun name => ?_⟩
    rw [TypeIndex.isSome_baseTypes_iff, TypeIndex.normalize_mem_iff simple]
  · intro hierarchy bases names state run
    have simple (seen : String) (visited : seen ∈ state.visited) : TypeName.normalize seen = seen :=
      TypeHierarchy.normalize_of_mem_visited run visited
    exact ⟨simple, TypeIndex.normalize_mem_iff simple⟩

def poolAdditions : List Addition := [.ofType " Game.Pool < T > " ["Store", "MonoBehaviour"]]

theorem simple_names_identify_pool :
    let index := TypeIndex.empty.addAll poolAdditions
    let state : SearchState := ⟨[["Store", "MonoBehaviour"], ["Lost"]], ["Pool", "Hero"], ["Pool"], false⟩
    TypeName.normalize " global::Pool<int>" = TypeName.normalize "Pool" ∧
    index.hierarchy.isComponent " global::Pool<int>" = index.hierarchy.isComponent "Pool" ∧
    "Pool" ∈ index.names ∧ TypeName.normalize "Pool" = "Pool" ∧
    SearchState.Run index.hierarchy (.start [":::Pool ", "Lost"] (["Game . Hero"].map TypeName.normalize)) state ∧
    ∃ seen ∈ state.visited, Alike seen "A.Pool<B>" := by
  intro index state
  obtain ⟨_, _, component, indexed, searched⟩ := simple_names_identify
  have same : TypeName.normalize " global::Pool<int>" = TypeName.normalize "Pool" := by decide +kernel
  have stored : "Pool" ∈ index.names := by decide +kernel
  have hero : ["Game . Hero"].map TypeName.normalize = ["Hero"] := by decide +kernel
  have pool : TypeName.normalize ":::Pool " = "Pool" := by decide +kernel
  have run : SearchState.Run index.hierarchy (.start [":::Pool ", "Lost"] (["Game . Hero"].map TypeName.normalize))
      state := by
    rw [hero]
    refine .single ?_
    have step : SearchState.Step index.hierarchy (.start [":::Pool ", "Lost"] ["Hero"])
        ⟨[["Store", "MonoBehaviour"], ["Lost"]], [TypeName.normalize ":::Pool ", "Hero"],
          [TypeName.normalize ":::Pool "], false⟩ :=
      .enter (by decide +kernel) (by decide +kernel) (by decide +kernel)
    rwa [pool] at step
  have later : TypeName.normalize "A.Pool<B>" ∈ state.visited := by decide +kernel
  refine ⟨same, component _ _ same index, stored, (indexed poolAdditions).1 "Pool" stored, run, ?_⟩
  exact ((searched index.hierarchy _ _ state run).2 "A.Pool<B>").mp later

end ScriptAudit
