import Mathlib.Data.List.Flatten
import Mathlib.Data.List.Forall2
import ScriptAudit.Pattern.Analysis
import ScriptAudit.Proofs.Pattern.Matching
import ScriptAudit.Proofs.Syntax.Ownership
import ScriptAudit.Proofs.TypeIndex

namespace ScriptAudit

-- A registered copy of a rule, a node with the type around it, and a node below it.
structure Candidate where
  rule : PatternRule
  method : SyntaxNode
  owner : SyntaxNode
  node : SyntaxNode

structure Reports (script : ParsedScript) (issue : PatternIssue) (candidate : Candidate) : Prop where
  rule : issue.rule = candidate.rule
  file : issue.file = script.path
  line : issue.line = (candidate.node.position script.source).line
  column : issue.column = (candidate.node.position script.source).column
  snippet : issue.codeSnippet = String.ofList (candidate.node.text script.source)
  method : candidate.method.declaredName script.source = some issue.method
  hot : issue.inHotPath = isHotPath issue.method

instance (source : List Char) (node : SyntaxNode) : (rule : PatternRule) → Decidable (rule.Matches source node)
  | .expensiveCall => decidable_of_iff _ (PatternRule.expensiveCallee_isSome_iff source node)
  | .stringAllocation =>
    decidable_of_iff (isConcatenation node = true ∨ node.kind = .interpolatedString)
      (or_congr (PatternRule.isConcatenation_iff node) Iff.rfl)
  | .debugLog => decidable_of_iff _ (PatternRule.isDebugLog_iff source node)
  | .mainCamera => decidable_of_iff _ (PatternRule.isMainCamera_iff source node)

namespace PatternRuleSet

variable {set : PatternRuleSet} {script : ParsedScript} {hierarchy : TypeHierarchy}

def candidatesIn (set : PatternRuleSet) (place : SyntaxNode × SyntaxNode) : List Candidate :=
  set.rules.flatMap fun rule => place.1.descendants.map fun node => ⟨rule, place.1, place.2, node⟩

def candidates (set : PatternRuleSet) (root : SyntaxNode) : List Candidate :=
  root.housed.flatMap set.candidatesIn

def Reported (set : PatternRuleSet) (script : ParsedScript) (hierarchy : TypeHierarchy) (candidate : Candidate) :
    Prop :=
  candidate.rule ∉ set.disabled ∧ candidate.method.kind = .methodDeclaration ∧
    isComponentDeclaration hierarchy script.source candidate.owner = true ∧
      (∃ name ∈ candidate.method.declaredName script.source,
        candidate.rule = .mainCamera ∨ isHotPath name = true) ∧
        candidate.rule.Matches script.source candidate.node

instance (set : PatternRuleSet) (script : ParsedScript) (hierarchy : TypeHierarchy) (candidate : Candidate) :
    Decidable (set.Reported script hierarchy candidate) :=
  inferInstanceAs (Decidable (_ ∧ _ ∧ _ ∧ _ ∧ _))

def contextOf? (script : ParsedScript) (method : SyntaxNode) : Option MethodContext :=
  (method.declaredName script.source).map fun name =>
    { file := script.path, source := script.source, method, name, isHotPath := isHotPath name }

def issuesAt (set : PatternRuleSet) (script : ParsedScript) (place : SyntaxNode × SyntaxNode) : List PatternIssue :=
  (contextOf? script place.1).toList.flatMap set.run

theorem run_methodsOf (set : PatternRuleSet) (script : ParsedScript) (owner : SyntaxNode) :
    (methodsOf script owner).flatMap set.run =
      (owner.ownedMethods.map fun method => (method, owner)).flatMap (set.issuesAt script) := by
  have named : methodsOf script owner = owner.ownedMethods.filterMap (contextOf? script) := rfl
  rw [named, List.flatMap_map]
  induction owner.ownedMethods with
  | nil => rfl
  | cons method rest ih =>
    rw [List.filterMap_cons, List.flatMap_cons, ← ih, issuesAt]
    cases contextOf? script method <;> simp

theorem analyze_eq (set : PatternRuleSet) (script : ParsedScript) (hierarchy : TypeHierarchy) :
    set.analyze script hierarchy =
      ((SyntaxNode.ownedPairs script.root.descendants).filter fun place =>
        isComponentDeclaration hierarchy script.source place.2).flatMap (set.issuesAt script) := by
  rw [analyze, componentsOf, ParsedScript.typeDeclarations, SyntaxNode.typeDeclarations,
    SyntaxNode.walk_eq_descendants, SyntaxNode.ownedPairs]
  induction script.root.descendants.filter SyntaxNode.isTypeDeclaration with
  | nil => rfl
  | cons owner rest ih =>
    rw [List.flatMap_cons, List.filter_append, List.flatMap_append, ← ih, List.filter_map]
    cases component : isComponentDeclaration hierarchy script.source owner with
    | true => simp [component, Function.comp_def, run_methodsOf]
    | false => simp [component, Function.comp_def]

def foundAt (set : PatternRuleSet) (script : ParsedScript) (place : SyntaxNode × SyntaxNode) : List Candidate :=
  (contextOf? script place.1).toList.flatMap fun context =>
    (set.rules.filter (set.applies context)).flatMap fun rule =>
      (place.1.descendants.filter fun node => decide (rule.Matches script.source node)).map fun node =>
        ⟨rule, place.1, place.2, node⟩

theorem forall₂_filterMap {α β γ : Type} {relates : β → γ → Prop} {found : α → Option β} {wanted : α → Bool}
    {image : α → γ} (same : ∀ a, (found a).isSome = wanted a)
    (related : ∀ a b, found a = some b → relates b (image a)) (items : List α) :
    List.Forall₂ relates (items.filterMap found) ((items.filter wanted).map image) := by
  induction items with
  | nil => exact .nil
  | cons item rest ih =>
    have here := same item
    cases hit : found item with
    | none =>
      rw [hit] at here
      rw [List.filterMap_cons_none hit, List.filter_cons_of_neg (by simp [← here])]
      exact ih
    | some b =>
      rw [hit] at here
      rw [List.filterMap_cons_some hit, List.filter_cons_of_pos (by simp [← here]), List.map_cons]
      exact .cons (related item b hit) ih

theorem forall₂_flatMap {α β γ : Type} {relates : β → γ → Prop} {found : α → List β} {image : α → List γ}
    (related : ∀ a, List.Forall₂ relates (found a) (image a)) (items : List α) :
    List.Forall₂ relates (items.flatMap found) (items.flatMap image) := by
  induction items with
  | nil => exact .nil
  | cons item rest ih => exact List.rel_append (related item) ih

theorem exists_related {α β : Type} {relates : α → β → Prop} {items : List α} {others : List β}
    (related : List.Forall₂ relates items others) {item : α} (member : item ∈ items) :
    ∃ other ∈ others, relates item other := by
  induction related with
  | nil => cases member
  | cons first _ ih =>
    rcases List.mem_cons.mp member with rfl | later
    · exact ⟨_, List.mem_cons_self, first⟩
    · obtain ⟨other, listed, held⟩ := ih later
      exact ⟨other, List.mem_cons_of_mem _ listed, held⟩

theorem check_reports {method : SyntaxNode} {context : MethodContext} (known : contextOf? script method = some context)
    (owner : SyntaxNode) (rule : PatternRule) :
    List.Forall₂ (Reports script) (context.check rule)
      ((method.descendants.filter fun node => decide (rule.Matches script.source node)).map fun node =>
        ⟨rule, method, owner, node⟩) := by
  obtain ⟨name, declared, rfl⟩ := Option.map_eq_some_iff.mp known
  rw [MethodContext.check, SyntaxNode.walk_eq_descendants]
  refine forall₂_filterMap ?_ ?_ _
  · intro node
    rw [Option.isSome_map, Bool.eq_iff_iff, PatternRule.remark?_isSome_iff, decide_eq_true_iff]
  · intro node issue raised
    obtain ⟨remark, _, rfl⟩ := Option.map_eq_some_iff.mp raised
    exact ⟨rfl, rfl, rfl, rfl, rfl, declared, rfl⟩

theorem issuesAt_reports (set : PatternRuleSet) (script : ParsedScript) (place : SyntaxNode × SyntaxNode) :
    List.Forall₂ (Reports script) (set.issuesAt script place) (set.foundAt script place) := by
  unfold issuesAt foundAt
  cases known : contextOf? script place.1 with
  | none => exact .nil
  | some context =>
    simp only [Option.toList_some, List.flatMap_singleton, run]
    exact forall₂_flatMap (check_reports known place.2) _

theorem applies_iff (set : PatternRuleSet) (context : MethodContext) (rule : PatternRule) :
    set.applies context rule = true ↔ rule ∉ set.disabled ∧ (rule = .mainCamera ∨ context.isHotPath = true) := by
  unfold applies isEnabled
  cases rule <;> simp [PatternRule.hotPathOnly]

theorem reported_iff (set : PatternRuleSet) (script : ParsedScript) (hierarchy : TypeHierarchy)
    (candidate : Candidate) : set.Reported script hierarchy candidate ↔
      (candidate.method.isMethod && isComponentDeclaration hierarchy script.source candidate.owner) = true ∧
        (∃ context ∈ contextOf? script candidate.method, set.applies context candidate.rule = true) ∧
          candidate.rule.Matches script.source candidate.node := by
  unfold Reported contextOf?
  simp only [applies_iff]
  cases candidate.method.declaredName script.source with
  | none => simp
  | some name =>
    simp only [Option.map_some, Option.mem_def, Option.some.injEq, exists_eq_left', Bool.and_eq_true,
      SyntaxNode.isMethod, beq_iff_eq]
    constructor
    · rintro ⟨enabled, method, component, hot, fits⟩
      exact ⟨⟨method, component⟩, ⟨enabled, hot⟩, fits⟩
    · rintro ⟨⟨method, component⟩, ⟨enabled, hot⟩, fits⟩
      exact ⟨enabled, method, component, hot, fits⟩

theorem filter_candidatesIn (set : PatternRuleSet) (script : ParsedScript) (hierarchy : TypeHierarchy)
    (place : SyntaxNode × SyntaxNode) :
    ((set.candidatesIn place).filter fun candidate => decide (set.Reported script hierarchy candidate)) =
      if place.1.isMethod && isComponentDeclaration hierarchy script.source place.2 then set.foundAt script place
      else [] := by
  simp only [candidatesIn, List.filter_flatMap, List.filter_map, Function.comp_def, reported_iff]
  by_cases met : (place.1.isMethod && isComponentDeclaration hierarchy script.source place.2) = true
  · rw [if_pos met, foundAt]
    rcases Option.eq_none_or_eq_some (contextOf? script place.1) with unnamed | ⟨context, named⟩
    · simp [unnamed]
    · simp only [named, Option.toList_some, List.flatMap_singleton]
      induction set.rules with
      | nil => rfl
      | cons rule rest ih =>
        rw [List.flatMap_cons, ih]
        cases runs : set.applies context rule with
        | true => simp [met, runs]
        | false => simp [runs]
  · simp [met]

theorem file_of_mem_analyze {issue : PatternIssue} (member : issue ∈ set.analyze script hierarchy) :
    issue.file = script.path := by
  obtain ⟨context, method, raised⟩ := List.mem_flatMap.mp member
  obtain ⟨owner, _, owned⟩ := List.mem_flatMap.mp method
  obtain ⟨node, _, known⟩ := List.mem_filterMap.mp owned
  obtain ⟨name, _, rfl⟩ := Option.map_eq_some_iff.mp known
  obtain ⟨rule, _, checked⟩ := List.mem_flatMap.mp raised
  obtain ⟨place, _, remarked⟩ := List.mem_filterMap.mp checked
  obtain ⟨remark, _, rfl⟩ := Option.map_eq_some_iff.mp remarked
  rfl

theorem filter_candidates (set : PatternRuleSet) (script : ParsedScript) (hierarchy : TypeHierarchy) :
    ((set.candidates script.root).filter fun candidate => decide (set.Reported script hierarchy candidate)) =
      (script.root.housed.filter fun place =>
        place.1.isMethod && isComponentDeclaration hierarchy script.source place.2).flatMap (set.foundAt script) := by
  rw [candidates, List.filter_flatMap]
  simp only [filter_candidatesIn]
  induction script.root.housed with
  | nil => rfl
  | cons place rest ih =>
    rw [List.flatMap_cons, ih]
    cases met : (place.1.isMethod && isComponentDeclaration hierarchy script.source place.2) with
    | true => simp [met]
    | false => simp [met]

-- The methods that the components own, type by type, are the methods placed in a component.
theorem components_perm (script : ParsedScript) (hierarchy : TypeHierarchy)
    (unit : script.root.kind = .compilationUnit) :
    ((SyntaxNode.ownedPairs script.root.descendants).filter fun place =>
      isComponentDeclaration hierarchy script.source place.2).Perm
        (script.root.housed.filter fun place =>
          place.1.isMethod && isComponentDeclaration hierarchy script.source place.2) := by
  have outside : script.root.isTypeDeclaration = false := by
    simp [SyntaxNode.isTypeDeclaration, unit, Kind.isTypeDeclaration]
  have kept := (SyntaxNode.ownedPairs_perm_housed outside).filter fun place =>
    isComponentDeclaration hierarchy script.source place.2
  rw [List.filter_filter] at kept
  simpa [Bool.and_comm] using kept

-- Every issue has its own candidate, and the candidates of the issues are all those that meet the conditions.
theorem analyze_corresponds (set : PatternRuleSet) (script : ParsedScript) (hierarchy : TypeHierarchy)
    (unit : script.root.kind = .compilationUnit) :
    ∃ reported : List Candidate, List.Forall₂ (Reports script) (set.analyze script hierarchy) reported ∧
      reported.Perm ((set.candidates script.root).filter fun candidate =>
        decide (set.Reported script hierarchy candidate)) := by
  let components := (SyntaxNode.ownedPairs script.root.descendants).filter fun place =>
    isComponentDeclaration hierarchy script.source place.2
  refine ⟨components.flatMap (set.foundAt script), ?_, ?_⟩
  · rw [analyze_eq]
    exact forall₂_flatMap (set.issuesAt_reports script) components
  · rw [filter_candidates]
    exact (components_perm script hierarchy unit).flatMap_right _

def part (kind : Kind) (field : Option Field) (start stop : Nat) (children : List SyntaxNode) : SyntaxNode :=
  .mk ⟨kind, field, start, stop, 0, start⟩ children

def heroMethod : SyntaxNode := part .methodDeclaration none 29 51 [
  part .identifier (some .name) 34 40 [],
  part .interpolatedString none 45 48 []]

def heroClass : SyntaxNode := part .classDeclaration none 0 53 [
  part .identifier (some .name) 6 10 [],
  part .baseList none 11 26 [part .identifier none 13 26 []],
  part .body none 27 53 [heroMethod]]

def heroScript : ParsedScript where
  path := "Hero.cs"
  source := "class Hero : MonoBehaviour \x7b void Update() \x7b $\"\"; \x7d \x7d".toList
  root := part .compilationUnit none 0 53 [heroClass]
  hasErrors := false

-- A rule that is registered twice reports the one string of the one component twice.
theorem analyze_corresponds_hero :
    let set : PatternRuleSet := ⟨[.stringAllocation, .stringAllocation], []⟩
    let hierarchy := TypeHierarchy.ofTable []
    heroScript.root.kind = .compilationUnit ∧ ∃ reported : List Candidate,
      List.Forall₂ (Reports heroScript) (set.analyze heroScript hierarchy) reported ∧
        reported.Perm ((set.candidates heroScript.root).filter fun candidate =>
          decide (set.Reported heroScript hierarchy candidate)) ∧
            reported.length = 2 := by
  intro set hierarchy
  have listed : "MonoBehaviour" ∈ heroClass.declaredBases heroScript.source := by decide +kernel
  have climb : hierarchy.Climb (heroClass.declaredBases heroScript.source) [] := .root listed (by decide +kernel)
  have component : isComponentDeclaration hierarchy heroScript.source heroClass = true :=
    (isComponentDeclaration_iff _ _ _).mpr ⟨[], climb, by simp⟩
  have places : SyntaxNode.ownedPairs heroScript.root.descendants = [(heroMethod, heroClass)] := by rfl
  have found : (set.issuesAt heroScript (heroMethod, heroClass)).length = 2 :=
    (issuesAt_reports set heroScript (heroMethod, heroClass)).length_eq.trans (by decide +kernel)
  have twice : (set.analyze heroScript hierarchy).length = 2 := by
    simp [analyze_eq, places, component, found]
  obtain ⟨reported, paired, all⟩ := analyze_corresponds set heroScript hierarchy rfl
  exact ⟨rfl, reported, paired, all, paired.length_eq ▸ twice⟩

-- With more types known, the components of a script and so its issues can only become more.
theorem analyze_sublist {earlier later : TypeHierarchy} (extended : earlier.Extends later) (set : PatternRuleSet)
    (script : ParsedScript) : (set.analyze script earlier).Sublist (set.analyze script later) := by
  have components : (componentsOf script earlier).Sublist (componentsOf script later) := by
    refine List.monotone_filter_right _ ?_
    intro declaration component
    exact isComponentDeclaration_extend extended component
  exact (components.flatMap _).flatMap _

end PatternRuleSet

theorem growth_keeps_components_and_issues :
    (∀ (index : TypeIndex) (additions : List TypeIndex.Addition) (name : String),
      index.hierarchy.isComponent name = true → (index.addAll additions).hierarchy.isComponent name = true) ∧
    (∀ (index : TypeIndex) (additions : List TypeIndex.Addition) (source : List Char) (declaration : SyntaxNode),
      isComponentDeclaration index.hierarchy source declaration = true →
        isComponentDeclaration (index.addAll additions).hierarchy source declaration = true) ∧
    ∀ (set : PatternRuleSet) (scripts : List ParsedScript) (script : ParsedScript), script ∈ scripts →
      (set.analyzeStandalone script).Sublist (set.analyze script (TypeIndex.ofScripts scripts).hierarchy) := by
  refine ⟨?_, ?_, ?_⟩
  · intro index additions name component
    exact TypeHierarchy.isComponent_extend (TypeIndex.addAll_extends index additions) component
  · intro index additions source declaration component
    exact isComponentDeclaration_extend (TypeIndex.addAll_extends index additions) component
  · intro set scripts script member
    exact set.analyze_sublist (TypeIndex.ofScripts_extends (by simpa using member)) script

end ScriptAudit
