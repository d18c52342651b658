import ScriptAudit.Proofs.Ancestry

namespace ScriptAudit

theorem mergeBases_append (bases added more : List String) :
    mergeBases bases (added ++ more) = mergeBases (mergeBases bases added) more :=
  List.foldl_append

theorem mem_mergeBases {base : String} {bases added : List String} :
    base ∈ mergeBases bases added ↔ base ∈ bases ∨ base ∈ added := by
  induction added generalizing bases with
  | nil => simp [mergeBases]
  | cons first rest ih =>
    have step : mergeBases bases (first :: rest) =
        mergeBases (if first ∈ bases then bases else bases ++ [first]) rest := rfl
    rw [step, ih, List.mem_cons]
    by_cases listed : first ∈ bases
    · rw [if_pos listed]
      constructor
      · rintro (old | new)
        · exact .inl old
        · exact .inr (.inr new)
      · rintro (old | rfl | new)
        · exact .inl old
        · exact .inl listed
        · exact .inr new
    · rw [if_neg listed, List.mem_append, List.mem_singleton, or_assoc]

namespace TypeIndex

def listed (index : TypeIndex) (name : String) : List String := (index.baseTypes name).getD []

theorem lookup_cons_eq (key query : String) (value : List String) (rest : List (String × List String)) :
    ((key, value) :: rest).lookup query = if query = key then some value else rest.lookup query := by
  by_cases same : query = key
  · simp [same]
  · have apart : (query == key) = false := by simpa using same
    simp [List.lookup_cons, same, apart]

theorem lookup_mergeAt (name : String) (bases : List String) (entries : List (String × List String))
    (query : String) : (mergeAt name bases entries).lookup query =
      if query = name then some (mergeBases ((entries.lookup name).getD []) bases) else entries.lookup query := by
  induction entries with
  | nil => rw [mergeAt, lookup_cons_eq]; rfl
  | cons entry rest ih =>
    obtain ⟨key, value⟩ := entry
    by_cases here : key = name
    · rw [mergeAt, if_pos here, here, lookup_cons_eq, lookup_cons_eq, lookup_cons_eq]
      by_cases same : query = name <;> simp [same]
    · rw [mergeAt, if_neg here, lookup_cons_eq, lookup_cons_eq, lookup_cons_eq, ih, if_neg (Ne.symm here)]
      by_cases same : query = name
      · simp [same, Ne.symm here]
      · simp [same]

theorem baseTypes_addType (index : TypeIndex) (name : String) (bases : List String) (query : String) :
    (index.addType name bases).baseTypes query =
      if TypeName.normalize query = TypeName.normalize name then some (mergeBases (index.listed name) bases)
      else index.baseTypes query := by
  rw [addType, baseTypes, lookup_mergeAt]
  rfl

def addTypes (index : TypeIndex) (types : List (String × List String)) : TypeIndex :=
  types.foldl (fun index type => index.addType type.1 type.2) index

theorem ofScripts_eq (scripts : List ParsedScript) :
    ofScripts scripts = empty.addTypes (scripts.flatMap declaredTypes) := by
  rw [addTypes, List.foldl_flatMap]
  rfl

def given (types : List (String × List String)) (name : String) : List String :=
  (types.filter fun type => TypeName.normalize type.1 == TypeName.normalize name).flatMap (·.2)

theorem mem_given {types : List (String × List String)} {name base : String} :
    base ∈ given types name ↔ ∃ type ∈ types, TypeName.normalize type.1 = TypeName.normalize name ∧ base ∈ type.2 := by
  simp [given, and_assoc]

theorem known_addTypes (index : TypeIndex) (types : List (String × List String)) (name : String) :
    ((index.addTypes types).baseTypes name).isSome = true ↔
      (index.baseTypes name).isSome = true ∨ ∃ type ∈ types, TypeName.normalize type.1 = TypeName.normalize name := by
  induction types generalizing index with
  | nil => simp [addTypes]
  | cons type rest ih =>
    have step := ih (index.addType type.1 type.2)
    rw [baseTypes_addType] at step
    rw [show index.addTypes (type :: rest) = (index.addType type.1 type.2).addTypes rest from rfl, step]
    by_cases same : TypeName.normalize name = TypeName.normalize type.1
    · simp [same]
    · simp [same, Ne.symm same]

theorem listed_addTypes (index : TypeIndex) (types : List (String × List String)) (name : String) :
    (index.addTypes types).listed name = mergeBases (index.listed name) (given types name) := by
  induction types generalizing index with
  | nil => rfl
  | cons type rest ih =>
    have step := ih (index.addType type.1 type.2)
    rw [show index.addTypes (type :: rest) = (index.addType type.1 type.2).addTypes rest from rfl, step]
    by_cases same : TypeName.normalize name = TypeName.normalize type.1
    · have again : index.listed type.1 = index.listed name := by
        rw [listed, listed, ← baseTypes_normalize, ← same, baseTypes_normalize]
      have first : given (type :: rest) name = type.2 ++ given rest name := by simp [given, same]
      have added : (index.addType type.1 type.2).listed name = mergeBases (index.listed name) type.2 := by
        rw [listed, baseTypes_addType, if_pos same, again]
        rfl
      rw [added, first, mergeBases_append]
    · have skipped : given (type :: rest) name = given rest name := by simp [given, Ne.symm same]
      have unchanged : (index.addType type.1 type.2).listed name = index.listed name := by
        rw [listed, baseTypes_addType, if_neg same]
        rfl
      rw [unchanged, skipped]

theorem extends_of_listed {earlier later : TypeIndex}
    (known : ∀ name, (earlier.baseTypes name).isSome = true → (later.baseTypes name).isSome = true)
    (kept : ∀ name, earlier.listed name ⊆ later.listed name) : earlier.hierarchy.Extends later.hierarchy := by
  intro name bases found
  have found : earlier.baseTypes name = some bases := found
  obtain ⟨more, found'⟩ := Option.isSome_iff_exists.mp (known name (by simp [found]))
  refine ⟨more, found', ?_⟩
  simpa [listed, found, found'] using kept name

theorem addTypes_extends (index : TypeIndex) (types : List (String × List String)) :
    index.hierarchy.Extends (index.addTypes types).hierarchy := by
  refine extends_of_listed ?_ ?_
  · intro name old
    exact (known_addTypes index types name).mpr (.inl old)
  · intro name base old
    rw [listed_addTypes]
    exact mem_mergeBases.mpr (.inl old)

-- Only which types are declared matters for what extends what, not their order and not how often.
theorem ofTypes_extends {types more : List (String × List String)} (kept : types ⊆ more) :
    (empty.addTypes types).hierarchy.Extends (empty.addTypes more).hierarchy := by
  refine extends_of_listed ?_ ?_
  · intro name
    rw [known_addTypes, known_addTypes]
    rintro (old | ⟨type, declared, same⟩)
    · exact .inl old
    · exact .inr ⟨type, kept declared, same⟩
  · intro name base
    rw [listed_addTypes, listed_addTypes, mem_mergeBases, mem_mergeBases, mem_given, mem_given]
    rintro (old | ⟨type, declared, same⟩)
    · exact .inl old
    · exact .inr ⟨type, kept declared, same⟩

theorem ofScripts_extends {scripts more : List ParsedScript} (kept : scripts ⊆ more) :
    (ofScripts scripts).hierarchy.Extends (ofScripts more).hierarchy := by
  rw [ofScripts_eq, ofScripts_eq]
  refine ofTypes_extends ?_
  intro type declared
  obtain ⟨script, member, here⟩ := List.mem_flatMap.mp declared
  exact List.mem_flatMap.mpr ⟨script, kept member, here⟩

inductive Addition where
  | ofType (name : String) (bases : List String)
  | ofScript (script : ParsedScript)

def add (index : TypeIndex) : Addition → TypeIndex
  | .ofType name bases => index.addType name bases
  | .ofScript script => index.addScript script

def addAll (index : TypeIndex) (additions : List Addition) : TypeIndex := additions.foldl add index

def Addition.types : Addition → List (String × List String)
  | .ofType name bases => [(name, bases)]
  | .ofScript script => declaredTypes script

theorem addAll_eq (index : TypeIndex) (additions : List Addition) :
    index.addAll additions = index.addTypes (additions.flatMap Addition.types) := by
  rw [addTypes, List.foldl_flatMap, addAll]
  congr 1
  funext index addition
  cases addition <;> rfl

theorem addAll_extends (index : TypeIndex) (additions : List Addition) :
    index.hierarchy.Extends (index.addAll additions).hierarchy := by
  rw [addAll_eq]
  exact addTypes_extends index _

end TypeIndex

end ScriptAudit
