import ScriptAudit.Proofs.Pattern.Concatenation
import ScriptAudit.Proofs.Syntax.Nesting
import ScriptAudit.Syntax.Grammar.Script

namespace ScriptAudit

open SyntaxNode
open Text

def PatternIssue.UpTo (earlier later : PatternIssue) : Prop :=
  Position.UpTo ⟨earlier.line, earlier.column⟩ ⟨later.line, later.column⟩

namespace PatternRuleSet

variable {set : PatternRuleSet} {script : ParsedScript} {hierarchy : TypeHierarchy} {owner : SyntaxNode}
  {context : MethodContext} {rule : PatternRule}

theorem mem_methodsOf : context ∈ methodsOf script owner ↔
    context.method ∈ owner.ownedMethods ∧ contextOf? script context.method = some context := by
  constructor
  · intro member
    obtain ⟨method, owned, known⟩ := List.mem_filterMap.mp member
    obtain ⟨name, _, rfl⟩ := Option.map_eq_some_iff.mp known
    exact ⟨owned, known⟩
  · rintro ⟨owned, known⟩
    exact List.mem_filterMap.mpr ⟨context.method, owned, known⟩

theorem source_eq (method : context ∈ methodsOf script owner) : context.source = script.source := by
  obtain ⟨name, _, same⟩ := Option.map_eq_some_iff.mp (mem_methodsOf.mp method).2
  rw [← same]

theorem method_mem_descendants (component : owner ∈ componentsOf script hierarchy)
    (method : context ∈ methodsOf script owner) : context.method ∈ script.root.descendants := by
  have listed : owner ∈ script.typeDeclarations := List.mem_of_mem_filter component
  rw [ParsedScript.typeDeclarations, typeDeclarations, walk_eq_descendants, List.mem_filter] at listed
  have owned := (mem_methodsOf.mp method).1
  have sites : (Site.root owner).ownedMethodSites.map Site.node = owner.ownedMethods :=
    Site.map_node_ownedMethodSites listed.2
  rw [← sites] at owned
  obtain ⟨place, inside, same⟩ := List.mem_map.mp owned
  have below := (Site.mem_below_iff.mp (List.mem_of_mem_filter inside)).mem_descendants
  rw [same] at below
  exact (infix_of_mem_descendants script.root listed.1).subset (List.mem_cons_of_mem _ below)

def emitted (set : PatternRuleSet) (context : MethodContext) (rule : PatternRule) : List PatternIssue :=
  if set.applies context rule then context.check rule else []

def foundPlaces (set : PatternRuleSet) (context : MethodContext) (rule : PatternRule) : List Site :=
  if set.applies context rule then
    (Site.root context.method).below.filter fun place => decide (rule.Matches context.source place.node)
  else []

theorem run_eq_flatMap_emitted (set : PatternRuleSet) (context : MethodContext) :
    set.run context = set.rules.flatMap (set.emitted context) := by
  rw [run]
  induction set.rules with
  | nil => rfl
  | cons rule rest ih =>
    rw [List.flatMap_cons, ← ih, emitted]
    cases applies : set.applies context rule <;> simp [applies]

theorem emitted_reports (method : context ∈ methodsOf script owner) (rule : PatternRule) :
    List.Forall₂ (fun issue place => Reports script issue ⟨rule, context.method, owner, place.node⟩)
      (set.emitted context rule) (set.foundPlaces context rule) := by
  have below : (Site.root context.method).below.map Site.node = context.method.descendants := Site.map_node_below _
  have reported := check_reports (mem_methodsOf.mp method).2 owner rule
  rw [← below, List.filter_map, List.map_map, List.forall₂_map_right_iff, ← source_eq method] at reported
  unfold emitted foundPlaces
  split
  · exact reported
  · exact .nil

theorem foundPlaces_sublist (set : PatternRuleSet) (context : MethodContext) (rule : PatternRule) :
    (set.foundPlaces context rule).Sublist (Site.root context.method).below := by
  unfold foundPlaces
  split
  · exact List.filter_sublist
  · exact List.nil_sublist _

theorem map_position_emitted (method : context ∈ methodsOf script owner) (rule : PatternRule) :
    (set.emitted context rule).map (fun issue => (⟨issue.line, issue.column⟩ : Position)) =
      (set.foundPlaces context rule).map fun place => place.node.position script.source := by
  rw [← List.forall₂_eq_eq_eq, List.forall₂_map_left_iff, List.forall₂_map_right_iff]
  refine (emitted_reports method rule).imp fun issue place reports => ?_
  rw [reports.line, reports.column]

section

variable (small : byteSize script.source < UInt32.size) (nested : script.root.IsNested)
  (fitting : ∀ node ∈ script.root.descendants, node.Fits script.source)
  (component : owner ∈ componentsOf script hierarchy) (method : context ∈ methodsOf script owner)

include nested component method

theorem leads_foundPlaces (set : PatternRuleSet) (rule : PatternRule) :
    (set.foundPlaces context rule).Pairwise Site.Leads := by
  have inside := nested.of_mem (method_mem_descendants component method)
  have leads : (Site.root context.method).below.Pairwise Site.Leads := Site.leads_below inside
  exact leads.sublist (foundPlaces_sublist set context rule)

include small fitting

theorem emitted_upTo (set : PatternRuleSet) (rule : PatternRule) :
    (set.emitted context rule).Pairwise PatternIssue.UpTo := by
  have fits (place : Site) (found : place ∈ set.foundPlaces context rule) : place.node.Fits script.source := by
    have below := Site.mem_below_iff.mp ((foundPlaces_sublist set context rule).subset found)
    have inside := infix_of_mem_descendants script.root (method_mem_descendants component method)
    exact fitting _ (inside.subset (List.mem_cons_of_mem _ below.mem_descendants))
  have placed : (set.foundPlaces context rule).Pairwise fun earlier later =>
      (earlier.node.position script.source).UpTo (later.node.position script.source) := by
    refine (leads_foundPlaces nested component method set rule).imp_of_mem fun member member' leads => ?_
    have here := fits _ member
    exact here.position_upTo (fits _ member') small (leads.start_le here.ordered)
  rw [← List.pairwise_map (f := fun place : Site => place.node.position script.source) (R := Position.UpTo),
    ← map_position_emitted method, List.pairwise_map] at placed
  exact placed

-- The places are in the order of the walk, and so in the order of the text.
theorem issues_in_source_order (set : PatternRuleSet) :
    set.run context = set.rules.flatMap (set.emitted context) ∧
    ∀ rule ∈ set.rules,
      (set.emitted context rule).Pairwise PatternIssue.UpTo ∧
      List.Forall₂ (fun issue place => Reports script issue ⟨rule, context.method, owner, place.node⟩)
        (set.emitted context rule) (set.foundPlaces context rule) ∧
      (set.foundPlaces context rule).Sublist (Site.root context.method).below ∧
      (set.foundPlaces context rule).Pairwise fun earlier later =>
        later.node.label.start < earlier.node.label.stop → earlier.Covers later := by
  refine ⟨run_eq_flatMap_emitted set context, fun rule _ => ⟨?_, emitted_reports method rule,
    foundPlaces_sublist set context rule, ?_⟩⟩
  · exact emitted_upTo small nested fitting component method set rule
  · refine (leads_foundPlaces nested component method set rule).imp fun leads early => ?_
    rcases leads with covers | past
    · exact covers
    · exact absurd early (Nat.not_lt.mpr past)

end

def radarScript : ParsedScript :=
  .parse "Radar.cs"
    "class Radar : MonoBehaviour \x7b\n void Update() \x7b Find(Find(\"a\")); /* é */ Find(\"b\"); \x7d \x7d"

theorem issues_in_source_order_radar :
    byteSize radarScript.source < UInt32.size ∧ radarScript.root.IsNested ∧
    (∀ node ∈ radarScript.root.descendants, node.Fits radarScript.source) ∧
    ∃ owner ∈ componentsOf radarScript (.ofTable []), ∃ context ∈ methodsOf radarScript owner,
      .expensiveCall ∈ builtin.rules ∧
      (builtin.emitted context .expensiveCall).map (fun issue => (issue.line, issue.column)) =
        [(1, 17), (1, 22), (1, 42)] ∧
      (builtin.emitted context .expensiveCall).Pairwise PatternIssue.UpTo ∧
      (builtin.foundPlaces context .expensiveCall).Pairwise fun earlier later =>
        later.node.label.start < earlier.node.label.stop → earlier.Covers later := by
  obtain ⟨small, nested, fitting, bases⟩ : byteSize radarScript.source < UInt32.size ∧ radarScript.root.IsNested ∧
      (∀ node ∈ radarScript.root.descendants, node.Fits radarScript.source) ∧
      ∀ declaration ∈ radarScript.typeDeclarations,
        "MonoBehaviour" ∈ declaration.declaredBases radarScript.source := by
    decide +kernel
  have components : componentsOf radarScript (.ofTable []) = radarScript.typeDeclarations := by
    refine List.filter_eq_self.mpr fun declaration declared => (isComponentDeclaration_iff _ _ _).mpr ⟨[], ?_, by simp⟩
    exact .root (bases declaration declared) (by decide +kernel)
  have found : (componentsOf radarScript (.ofTable [])).map (fun owner => (methodsOf radarScript owner).map
      fun context => (builtin.emitted context .expensiveCall).map fun issue => (issue.line, issue.column)) =
        [[[(1, 17), (1, 22), (1, 42)]]] := by
    rw [components]
    decide +kernel
  obtain ⟨owner, onlyType, found⟩ := List.map_eq_singleton_iff.mp found
  obtain ⟨context, onlyMethod, found⟩ := List.map_eq_singleton_iff.mp found
  have component : owner ∈ componentsOf radarScript (.ofTable []) := onlyType ▸ List.mem_singleton_self _
  have method : context ∈ methodsOf radarScript owner := onlyMethod ▸ List.mem_singleton_self _
  have registered : PatternRule.expensiveCall ∈ builtin.rules := by decide
  obtain ⟨_, ordered⟩ := issues_in_source_order small nested fitting component method builtin
  obtain ⟨upTo, _, _, covers⟩ := ordered _ registered
  exact ⟨small, nested, fitting, owner, component, context, method, registered, found, upTo, covers⟩

end PatternRuleSet

end ScriptAudit
