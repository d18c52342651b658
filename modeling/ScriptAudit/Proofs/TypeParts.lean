import ScriptAudit.Pattern.Analysis
import ScriptAudit.Proofs.TypeIndex
import ScriptAudit.Syntax.Grammar.Script

namespace ScriptAudit

variable {scripts : List ParsedScript} {script : ParsedScript} {declaration : SyntaxNode} {name base : String}

-- A climb starts at one base, whatever other bases are listed beside it.
theorem TypeHierarchy.Climb.exists_first {hierarchy : TypeHierarchy} {bases passed : List String}
    (climb : hierarchy.Climb bases passed) : ∃ base ∈ bases, hierarchy.Climb [base] passed := by
  cases climb with
  | root listed component => exact ⟨_, listed, .root List.mem_cons_self component⟩
  | up listed found rest => exact ⟨_, listed, .up List.mem_cons_self found rest⟩

structure IsPart (scripts : List ParsedScript) (name : String) (script : ParsedScript) (declaration : SyntaxNode) :
    Prop where
  member : script ∈ scripts
  declared : declaration ∈ script.typeDeclarations
  named : ∃ written ∈ declaration.declaredName script.source, TypeName.normalize written = TypeName.normalize name

namespace TypeIndex

theorem mem_declaredTypes {type : String × List String} : type ∈ declaredTypes script ↔
    ∃ declaration ∈ script.typeDeclarations, declaration.declaredName script.source = some type.1 ∧
      declaration.declaredBases script.source = type.2 := by
  simp [declaredTypes, Prod.ext_iff]

theorem mem_listed_ofScripts : base ∈ (ofScripts scripts).listed name ↔
    ∃ script declaration, IsPart scripts name script declaration ∧ base ∈ declaration.declaredBases script.source := by
  have nothing : empty.listed name = [] := rfl
  rw [ofScripts_eq, listed_addTypes, mem_mergeBases, mem_given, nothing]
  constructor
  · rintro (none | ⟨type, declared, same, listed⟩)
    · cases none
    · obtain ⟨script, member, here⟩ := List.mem_flatMap.mp declared
      obtain ⟨declaration, found, written, bases⟩ := mem_declaredTypes.mp here
      exact ⟨script, declaration, ⟨member, found, type.1, written, same⟩, bases ▸ listed⟩
  · rintro ⟨script, declaration, ⟨member, found, written, spelled, same⟩, listed⟩
    have here : (written, declaration.declaredBases script.source) ∈ declaredTypes script :=
      mem_declaredTypes.mpr ⟨declaration, found, spelled, rfl⟩
    exact .inr ⟨_, List.mem_flatMap.mpr ⟨script, member, here⟩, same, listed⟩

theorem known_ofScripts : ((ofScripts scripts).baseTypes name).isSome = true ↔
    ∃ script declaration, IsPart scripts name script declaration := by
  rw [ofScripts_eq, known_addTypes]
  constructor
  · rintro (none | ⟨type, declared, same⟩)
    · cases none
    · obtain ⟨script, member, here⟩ := List.mem_flatMap.mp declared
      obtain ⟨declaration, found, written, _⟩ := mem_declaredTypes.mp here
      exact ⟨script, declaration, member, found, type.1, written, same⟩
  · rintro ⟨script, declaration, member, found, written, spelled, same⟩
    have here : (written, declaration.declaredBases script.source) ∈ declaredTypes script :=
      mem_declaredTypes.mpr ⟨declaration, found, spelled, rfl⟩
    exact .inr ⟨_, List.mem_flatMap.mpr ⟨script, member, here⟩, same⟩

theorem isComponent_iff_listed (index : TypeIndex) (name : String) :
    index.hierarchy.isComponent name = true ↔ ∃ passed, index.hierarchy.Climb (index.listed name) passed ∧
      ∀ base ∈ passed, TypeName.normalize base ≠ TypeName.normalize name := by
  have known : index.hierarchy.baseTypes name = index.baseTypes name := rfl
  rw [TypeHierarchy.isComponent_iff, known, listed]
  cases index.baseTypes name with
  | none =>
    constructor
    · rintro ⟨bases, found, _⟩
      cases found
    · rintro ⟨passed, climb, _⟩
      obtain ⟨base, listed, _⟩ := climb.exists_first
      cases listed
  | some bases => simp

end TypeIndex

variable {hierarchy : TypeHierarchy}

theorem IsPart.isComponentDeclaration_iff (part : IsPart scripts name script declaration) :
    isComponentDeclaration hierarchy script.source declaration = true ↔
      ∃ passed, hierarchy.Climb (declaration.declaredBases script.source) passed ∧
        ∀ base ∈ passed, TypeName.normalize base ≠ TypeName.normalize name := by
  obtain ⟨written, spelled, same⟩ := part.named
  rw [ScriptAudit.isComponentDeclaration_iff, Option.mem_def.mp spelled]
  simp [same]

-- The first base of a climb from the merged bases is listed by some part, and the climb is that part's own.
theorem isComponent_iff_part (scripts : List ParsedScript) (name : String) :
    (TypeIndex.ofScripts scripts).hierarchy.isComponent name = true ↔
      ∃ script declaration, IsPart scripts name script declaration ∧
        isComponentDeclaration (TypeIndex.ofScripts scripts).hierarchy script.source declaration = true := by
  rw [TypeIndex.isComponent_iff_listed]
  constructor
  · rintro ⟨passed, climb, avoids⟩
    obtain ⟨base, listed, own⟩ := climb.exists_first
    obtain ⟨script, declaration, part, here⟩ := TypeIndex.mem_listed_ofScripts.mp listed
    have kept : [base] ⊆ declaration.declaredBases script.source := by simpa using here
    exact ⟨script, declaration, part, part.isComponentDeclaration_iff.mpr ⟨passed, own.mono kept, avoids⟩⟩
  · rintro ⟨script, declaration, part, component⟩
    obtain ⟨passed, climb, avoids⟩ := part.isComponentDeclaration_iff.mp component
    refine ⟨passed, climb.mono ?_, avoids⟩
    intro base here
    exact TypeIndex.mem_listed_ofScripts.mpr ⟨script, declaration, part, here⟩

theorem IsPart.isComponentDeclaration_of_subset {script' : ParsedScript} {declaration' : SyntaxNode}
    (part : IsPart scripts name script declaration) (part' : IsPart scripts name script' declaration')
    (kept : declaration'.declaredBases script'.source ⊆ declaration.declaredBases script.source)
    (component : isComponentDeclaration hierarchy script'.source declaration' = true) :
    isComponentDeclaration hierarchy script.source declaration = true := by
  obtain ⟨passed, climb, avoids⟩ := part'.isComponentDeclaration_iff.mp component
  exact part.isComponentDeclaration_iff.mpr ⟨passed, climb.mono kept, avoids⟩

theorem not_isComponentDeclaration_of_baseless {source : List Char} (baseless : declaration.declaredBases source = []) :
    ¬ isComponentDeclaration hierarchy source declaration = true := by
  intro component
  obtain ⟨passed, climb, _⟩ := (isComponentDeclaration_iff hierarchy source declaration).mp component
  obtain ⟨base, listed, _⟩ := climb.exists_first
  rw [baseless] at listed
  cases listed

theorem mem_componentsOf : declaration ∈ componentsOf script hierarchy ↔ declaration ∈ script.typeDeclarations ∧
    isComponentDeclaration hierarchy script.source declaration = true :=
  List.mem_filter

theorem IsPart.mem_componentsOf (part : IsPart scripts name script declaration) :
    declaration ∈ componentsOf script hierarchy ↔
      isComponentDeclaration hierarchy script.source declaration = true := by
  simp [ScriptAudit.mem_componentsOf, part.declared]

theorem PatternRuleSet.analyze_baseless (set : PatternRuleSet)
    (baseless : ∀ declaration ∈ script.typeDeclarations, declaration.declaredBases script.source = []) :
    set.analyze script hierarchy = [] := by
  have nobody : componentsOf script hierarchy = [] :=
    List.filter_eq_nil_iff.mpr fun declaration found =>
      not_isComponentDeclaration_of_baseless (baseless declaration found)
  rw [analyze, nobody]
  rfl

-- The analysis looks at the parts that are components by the bases they list themselves.
theorem component_by_parts (scripts : List ParsedScript) (name : String) :
    ((TypeIndex.ofScripts scripts).hierarchy.isComponent name = true ↔
      ∃ script declaration, IsPart scripts name script declaration ∧
        declaration ∈ componentsOf script (TypeIndex.ofScripts scripts).hierarchy) ∧
    ∀ script declaration, IsPart scripts name script declaration →
      (isComponentDeclaration (TypeIndex.ofScripts scripts).hierarchy script.source declaration = true ↔
        ∃ passed, (TypeIndex.ofScripts scripts).hierarchy.Climb (declaration.declaredBases script.source) passed ∧
          ∀ base ∈ passed, TypeName.normalize base ≠ TypeName.normalize name) ∧
      (declaration ∈ componentsOf script (TypeIndex.ofScripts scripts).hierarchy →
        (TypeIndex.ofScripts scripts).hierarchy.isComponent name = true) ∧
      ((∀ script' declaration', IsPart scripts name script' declaration' →
          declaration'.declaredBases script'.source ⊆ declaration.declaredBases script.source) →
        isComponentDeclaration (TypeIndex.ofScripts scripts).hierarchy script.source declaration =
          (TypeIndex.ofScripts scripts).hierarchy.isComponent name) ∧
      (declaration.declaredBases script.source = [] →
        declaration ∉ componentsOf script (TypeIndex.ofScripts scripts).hierarchy) := by
  refine ⟨?_, ?_⟩
  · rw [isComponent_iff_part]
    refine exists_congr fun script => exists_congr fun declaration => and_congr_right fun part => ?_
    exact part.mem_componentsOf.symm
  · intro script declaration part
    refine ⟨part.isComponentDeclaration_iff, ?_, ?_, ?_⟩
    · intro component
      exact (isComponent_iff_part scripts name).mpr ⟨script, declaration, part, part.mem_componentsOf.mp component⟩
    · intro all
      rw [Bool.eq_iff_iff, isComponent_iff_part]
      constructor
      · intro component
        exact ⟨script, declaration, part, component⟩
      · rintro ⟨script', declaration', part', component⟩
        exact part.isComponentDeclaration_of_subset part' (all script' declaration' part') component
    · intro baseless component
      exact not_isComponentDeclaration_of_baseless baseless (part.mem_componentsOf.mp component)

theorem exists_only_declaration {name : Option String}
    (shown : script.typeDeclarations.map (fun declaration =>
      (declaration.declaredName script.source, declaration.declaredBases script.source)) = [(name, bases)]) :
    ∃ declaration, script.typeDeclarations = [declaration] ∧ declaration.declaredName script.source = name ∧
      declaration.declaredBases script.source = bases := by
  obtain ⟨declaration, only, same⟩ := List.map_eq_singleton_iff.mp shown
  exact ⟨declaration, only, congrArg Prod.fst same, congrArg Prod.snd same⟩

def heroHead : ParsedScript := .parse "Hero.cs" "partial class Hero : MonoBehaviour \x7b \x7d"

def heroBody : ParsedScript :=
  .parse "Hero.Update.cs" "partial class Hero \x7b void Update() \x7b Find(\"a\"); \x7d \x7d"

theorem exists_heroHead : ∃ declaration, heroHead.typeDeclarations = [declaration] ∧
    declaration.declaredName heroHead.source = some "Hero" ∧
      declaration.declaredBases heroHead.source = ["MonoBehaviour"] := by
  apply exists_only_declaration
  decide +kernel

theorem exists_heroBody : ∃ declaration, heroBody.typeDeclarations = [declaration] ∧
    declaration.declaredName heroBody.source = some "Hero" ∧ declaration.declaredBases heroBody.source = [] := by
  apply exists_only_declaration
  decide +kernel

theorem isComponent_hero : (TypeIndex.ofScripts [heroHead, heroBody]).hierarchy.isComponent "Hero" = true := by
  obtain ⟨declaration, only, named, bases⟩ := exists_heroHead
  have part : IsPart [heroHead, heroBody] "Hero" heroHead declaration :=
    ⟨by simp, by simp [only], "Hero", named, rfl⟩
  have listed : "MonoBehaviour" ∈ declaration.declaredBases heroHead.source := by simp [bases]
  refine (isComponent_iff_part _ _).mpr ⟨heroHead, declaration, part, ?_⟩
  exact part.isComponentDeclaration_iff.mpr ⟨[], .root listed (by decide +kernel), by simp⟩

theorem component_by_parts_hero : ∃ declaration, IsPart [heroHead, heroBody] "Hero" heroHead declaration ∧
    (∀ script' declaration', IsPart [heroHead, heroBody] "Hero" script' declaration' →
      declaration'.declaredBases script'.source ⊆ declaration.declaredBases heroHead.source) ∧
    isComponentDeclaration (TypeIndex.ofScripts [heroHead, heroBody]).hierarchy heroHead.source declaration =
      (TypeIndex.ofScripts [heroHead, heroBody]).hierarchy.isComponent "Hero" := by
  obtain ⟨head, onlyHead, named, bases⟩ := exists_heroHead
  obtain ⟨body, onlyBody, _, baseless⟩ := exists_heroBody
  have part : IsPart [heroHead, heroBody] "Hero" heroHead head := ⟨by simp, by simp [onlyHead], "Hero", named, rfl⟩
  have all : ∀ script' declaration', IsPart [heroHead, heroBody] "Hero" script' declaration' →
      declaration'.declaredBases script'.source ⊆ head.declaredBases heroHead.source := by
    rintro script' declaration' ⟨member, declared, _⟩
    rcases List.mem_pair.mp member with rfl | rfl
    · rw [onlyHead, List.mem_singleton] at declared
      subst declared
      exact List.Subset.refl _
    · rw [onlyBody, List.mem_singleton] at declared
      subst declared
      rw [baseless]
      exact List.nil_subset _
  exact ⟨head, part, all, ((component_by_parts [heroHead, heroBody] "Hero").2 heroHead head part).2.2.1 all⟩

-- The second part has the same name and is no component, and nothing in it is reported.
theorem parts_disagree_hero :
    (¬ ∀ (scripts : List ParsedScript) (script : ParsedScript) (declaration : SyntaxNode) (name : String),
      script ∈ scripts → declaration ∈ script.typeDeclarations → declaration.declaredName script.source = some name →
        isComponentDeclaration (TypeIndex.ofScripts scripts).hierarchy script.source declaration =
          (TypeIndex.ofScripts scripts).hierarchy.isComponent name) ∧
    (TypeIndex.ofScripts [heroHead, heroBody]).hierarchy.isComponent "Hero" = true ∧
      PatternRuleSet.builtin.analyze heroBody (TypeIndex.ofScripts [heroHead, heroBody]).hierarchy = [] := by
  obtain ⟨body, only, named, baseless⟩ := exists_heroBody
  refine ⟨?_, isComponent_hero, PatternRuleSet.builtin.analyze_baseless (by simp [only, baseless])⟩
  intro agree
  have component := agree [heroHead, heroBody] heroBody body "Hero" (by simp) (by simp [only]) named
  rw [isComponent_hero] at component
  exact not_isComponentDeclaration_of_baseless baseless component

end ScriptAudit
