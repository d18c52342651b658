import ScriptAudit.Proofs.Pattern.Analysis
import ScriptAudit.Proofs.Syntax.Site

namespace ScriptAudit

structure Origin where
  rule : PatternRule
  type : Site
  method : Site
  place : Site

namespace Origin

def candidate (origin : Origin) : Candidate := ⟨origin.rule, origin.method.node, origin.type.node, origin.place.node⟩

def key (origin : Origin) : PatternRule × List Nat := (origin.rule, origin.place.trail)

end Origin

namespace SyntaxNode

-- No method declaration of the tree has another one inside.
def MethodsApart (root : SyntaxNode) : Prop :=
  ∀ method ∈ root.descendants, method.kind = .methodDeclaration →
    ∀ node ∈ method.descendants, node.kind ≠ .methodDeclaration

instance (root : SyntaxNode) : Decidable root.MethodsApart :=
  inferInstanceAs (Decidable (∀ _ ∈ _, _ → ∀ _ ∈ _, _))

theorem MethodsApart.eq_of_under {root : SyntaxNode} (separate : root.MethodsApart) {one other place : Site}
    (placed : Site.Under (.root root) one) (placed' : Site.Under (.root root) other)
    (method : one.node.isMethod = true) (method' : other.node.isMethod = true)
    (under : Site.Under one place) (under' : Site.Under other place) : one = other := by
  rcases under.compare under' with same | down | up
  · exact same
  · exact absurd (eq_of_beq method') (separate _ placed.mem_descendants (eq_of_beq method) _ down.mem_descendants)
  · exact absurd (eq_of_beq method) (separate _ placed'.mem_descendants (eq_of_beq method') _ up.mem_descendants)

theorem ownedPairs_descendants (root : SyntaxNode) : ownedPairs root.descendants =
    (Site.typeSites root).flatMap fun type => type.ownedMethodSites.map fun method => (method.node, type.node) := by
  have types : root.descendants.filter isTypeDeclaration = (Site.typeSites root).map Site.node := by
    rw [Site.map_node_typeSites, typeDeclarations, walk_eq_descendants]
  rw [ownedPairs, types, List.flatMap_map]
  refine List.flatMap_congr fun type listed => ?_
  rw [← Site.map_node_ownedMethodSites (Site.mem_typeSites.mp listed).2, List.map_map]
  rfl

end SyntaxNode

namespace PatternRuleSet

variable (set : PatternRuleSet) (script : ParsedScript) (hierarchy : TypeHierarchy)

def originsOfRule (type method : Site) (rule : PatternRule) : List Origin :=
  (method.below.filter fun site => decide (rule.Matches script.source site.node)).map fun site =>
    ⟨rule, type, method, site⟩

def originsIn (type method : Site) : List Origin :=
  (contextOf? script method.node).toList.flatMap fun context =>
    (set.rules.filter (set.applies context)).flatMap (originsOfRule script type method)

-- The origins of the issues of a script: the components in their places, the methods they own, the rules that run on a
-- method, and the places below the method that match.
def origins : List Origin :=
  ((Site.typeSites script.root).filter fun type => isComponentDeclaration hierarchy script.source type.node).flatMap
    fun type => type.ownedMethodSites.flatMap (originsIn set script type)

theorem candidates_originsIn (type method : Site) :
    (originsIn set script type method).map Origin.candidate = set.foundAt script (method.node, type.node) := by
  have nodes (rule : PatternRule) : (originsOfRule script type method rule).map Origin.candidate =
      (method.node.descendants.filter fun node => decide (rule.Matches script.source node)).map fun node =>
        ⟨rule, method.node, type.node, node⟩ := by
    rw [originsOfRule, ← Site.map_node_below, List.filter_map, List.map_map, List.map_map]
    rfl
  simp only [originsIn, foundAt, List.map_flatMap, nodes]

theorem candidates_origins : (origins set script hierarchy).map Origin.candidate =
    ((SyntaxNode.ownedPairs script.root.descendants).filter fun place =>
      isComponentDeclaration hierarchy script.source place.2).flatMap (set.foundAt script) := by
  simp only [SyntaxNode.ownedPairs_descendants, origins, List.map_flatMap, candidates_originsIn]
  induction Site.typeSites script.root with
  | nil => rfl
  | cons type rest ih =>
    rw [List.flatMap_cons, List.filter_append, List.flatMap_append, ← ih, List.filter_map]
    cases component : isComponentDeclaration hierarchy script.source type.node with
    | true => simp [component, Function.comp_def, List.flatMap_map]
    | false => simp [component, Function.comp_def]

theorem analyze_origins : List.Forall₂ (fun issue origin => Reports script issue origin.candidate)
    (set.analyze script hierarchy) (origins set script hierarchy) := by
  rw [← List.forall₂_map_right_iff, candidates_origins, analyze_eq]
  exact forall₂_flatMap (set.issuesAt_reports script) _

variable {set script hierarchy}

theorem mem_originsIn {type method : Site} {origin : Origin} (member : origin ∈ originsIn set script type method) :
    origin.type = type ∧ origin.method = method ∧ Site.Under method origin.place := by
  obtain ⟨context, _, ruled⟩ := List.mem_flatMap.mp member
  obtain ⟨rule, _, matched⟩ := List.mem_flatMap.mp ruled
  obtain ⟨site, kept, rfl⟩ := List.mem_map.mp matched
  exact ⟨rfl, rfl, Site.mem_below_iff.mp (List.mem_of_mem_filter kept)⟩

theorem nodup_originsIn (distinct : set.rules.Nodup) (type method : Site) :
    (originsIn set script type method).Nodup := by
  rw [originsIn]
  cases contextOf? script method.node with
  | none => exact List.nodup_nil
  | some context =>
    rw [Option.toList_some, List.flatMap_singleton]
    refine nodup_flatMap_of_apart (distinct.filter _) ?_ ?_
    · intro rule _
      refine ((Site.nodup_below method).filter _).map ?_
      intro site other same
      exact congrArg Origin.place same
    · intro rule _ other _ origin here there
      obtain ⟨_, _, rfl⟩ := List.mem_map.mp here
      obtain ⟨_, _, same⟩ := List.mem_map.mp there
      exact (congrArg Origin.rule same).symm

theorem mem_origins {origin : Origin} (member : origin ∈ origins set script hierarchy) :
    origin.type ∈ Site.typeSites script.root ∧ origin.method ∈ origin.type.ownedMethodSites ∧
      Site.Under origin.method origin.place := by
  obtain ⟨type, component, inType⟩ := List.mem_flatMap.mp member
  obtain ⟨method, owned, inMethod⟩ := List.mem_flatMap.mp inType
  obtain ⟨rfl, rfl, under⟩ := mem_originsIn inMethod
  exact ⟨List.mem_of_mem_filter component, owned, under⟩

theorem nodup_origins (distinct : set.rules.Nodup) : (origins set script hierarchy).Nodup := by
  refine nodup_flatMap_of_apart (((Site.nodup_below _).filter _).filter _) ?_ ?_
  · intro type _
    refine nodup_flatMap_of_apart ((Site.nodup_below type).filter _) ?_ ?_
    · intro method _
      exact nodup_originsIn distinct type method
    · intro method _ other _ origin here there
      exact (mem_originsIn here).2.1.symm.trans (mem_originsIn there).2.1
  · intro type _ other _ origin here there
    obtain ⟨method, _, inMethod⟩ := List.mem_flatMap.mp here
    obtain ⟨method', _, inMethod'⟩ := List.mem_flatMap.mp there
    exact (mem_originsIn inMethod).1.symm.trans (mem_originsIn inMethod').1

-- The place decides the method, the method its type, and so with the rule the whole origin.
theorem nodup_key_origins (plain : script.root.isTypeDeclaration = false) (separate : script.root.MethodsApart)
    (distinct : set.rules.Nodup) : ((origins set script hierarchy).map Origin.key).Nodup := by
  refine (nodup_origins distinct).map_on ?_
  intro one member other member' same
  obtain ⟨typed, owned, under⟩ := mem_origins member
  obtain ⟨typed', owned', under'⟩ := mem_origins member'
  obtain ⟨placed, method, near⟩ := (Site.mem_ownedMethodSites plain).mp ⟨typed, owned⟩
  obtain ⟨placed', method', near'⟩ := (Site.mem_ownedMethodSites plain).mp ⟨typed', owned'⟩
  have rule : one.rule = other.rule := congrArg Prod.fst same
  have place : one.place = other.place :=
    Site.eq_of_trail_eq (placed.trans under) (placed'.trans under') (congrArg Prod.snd same)
  rw [← place] at under'
  have methods : one.method = other.method := separate.eq_of_under placed placed' method method' under under'
  rw [← methods] at near'
  have types : one.type = other.type := near.unique near'
  cases one
  cases other
  cases rule
  cases place
  cases methods
  cases types
  rfl

theorem methods_owned_once (script : ParsedScript) (unit : script.root.kind = .compilationUnit) :
    (Site.typeSites script.root).map Site.node = script.typeDeclarations ∧
    (∀ type ∈ Site.typeSites script.root, type.ownedMethodSites.map Site.node = type.node.ownedMethods) ∧
    (((Site.typeSites script.root).flatMap Site.ownedMethodSites).map Site.trail).Nodup ∧
    (∀ site, site ∈ (Site.typeSites script.root).flatMap Site.ownedMethodSites ↔
      Site.Under (.root script.root) site ∧ site.node.kind = .methodDeclaration ∧
        ∃ type, Site.Under type site ∧ type.node.isTypeDeclaration = true) ∧
    (∀ type ∈ Site.typeSites script.root, ∀ site ∈ type.ownedMethodSites, Site.IsNearestType site type) ∧
    ∀ (set : PatternRuleSet) (hierarchy : TypeHierarchy),
      List.Forall₂ (fun issue origin => Reports script issue origin.candidate)
        (set.analyze script hierarchy) (set.origins script hierarchy) ∧
      (∀ origin ∈ set.origins script hierarchy, origin.type ∈ Site.typeSites script.root ∧
        origin.method ∈ origin.type.ownedMethodSites ∧ Site.Under origin.method origin.place) ∧
      (script.root.MethodsApart → set.rules.Nodup →
        ((set.origins script hierarchy).map fun origin => (origin.rule, origin.place.trail)).Nodup) := by
  have plain : script.root.isTypeDeclaration = false := by
    simp [SyntaxNode.isTypeDeclaration, unit, Kind.isTypeDeclaration]
  refine ⟨Site.map_node_typeSites script.root, ?_, Site.nodup_ownedMethodSites plain, ?_, ?_, ?_⟩
  · intro type listed
    exact Site.map_node_ownedMethodSites (Site.mem_typeSites.mp listed).2
  · intro site
    rw [List.mem_flatMap]
    constructor
    · rintro ⟨type, listed, owned⟩
      obtain ⟨placed, method, near⟩ := (Site.mem_ownedMethodSites plain).mp ⟨listed, owned⟩
      exact ⟨placed, eq_of_beq method, type, near.above, near.declares⟩
    · rintro ⟨placed, method, type, above, declares⟩
      obtain ⟨nearest, near⟩ := Site.exists_isNearestType placed above declares
      exact ⟨nearest, (Site.mem_ownedMethodSites plain).mpr ⟨placed, beq_iff_eq.mpr method, near⟩⟩
  · intro type listed site owned
    exact ((Site.mem_ownedMethodSites plain).mp ⟨listed, owned⟩).2.2
  · intro set hierarchy
    exact ⟨analyze_origins set script hierarchy, fun _ => mem_origins, nodup_key_origins plain⟩

-- A type inside another one, both with the same method: only the places differ.
def nestedScript : ParsedScript where
  path := "Hero.cs"
  source := heroScript.source
  root := part .compilationUnit none 0 53 [part .classDeclaration none 0 53 [
    part .identifier (some .name) 6 10 [],
    part .baseList none 11 26 [part .identifier none 13 26 []],
    part .body none 27 53 [heroMethod, heroClass]]]
  hasErrors := false

theorem methods_owned_once_nested :
    nestedScript.root.kind = .compilationUnit ∧ nestedScript.root.MethodsApart ∧ builtin.rules.Nodup ∧
    ((Site.typeSites nestedScript.root).flatMap Site.ownedMethodSites).map Site.trail =
      [[0, 2, 0], [0, 2, 1, 2, 0]] ∧
    ((builtin.origins nestedScript (.ofTable [])).map fun origin => (origin.rule, origin.place.trail)).Nodup := by
  have separate : nestedScript.root.MethodsApart := by decide +kernel
  have distinct : builtin.rules.Nodup := by decide
  obtain ⟨_, _, _, _, _, issues⟩ := methods_owned_once nestedScript rfl
  refine ⟨rfl, separate, distinct, by decide +kernel, (issues builtin (.ofTable [])).2.2 separate distinct⟩

end PatternRuleSet

end ScriptAudit
