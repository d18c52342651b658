import ScriptAudit.Proofs.Pattern.Origin
import ScriptAudit.Proofs.Syntax.Position
import ScriptAudit.Syntax.Grammar.Script

namespace ScriptAudit

open Text

-- The snippet is the whole node, and the text from the position of the issue on begins with it.
structure PatternIssue.Shows (source : List Char) (node : SyntaxNode) (issue : PatternIssue) : Prop where
  place : (LineIndex.ofText source).position node.label.start = ⟨issue.line, issue.column⟩
  covered : slice source node.label.start node.label.stop = some issue.codeSnippet.toList
  read : ∃ after, textFrom source ⟨issue.line, issue.column⟩ = some (issue.codeSnippet.toList ++ after)

variable {set : PatternRuleSet} {script : ParsedScript} {hierarchy : TypeHierarchy} {issue : PatternIssue}

theorem Reports.shows {candidate : Candidate} (reports : Reports script issue candidate)
    (fits : candidate.node.Fits script.source) (small : byteSize script.source < UInt32.size) :
    issue.Shows script.source candidate.node := by
  have place : candidate.node.position script.source = ⟨issue.line, issue.column⟩ := by
    rw [reports.line, reports.column]
  have snippet : issue.codeSnippet.toList = candidate.node.text script.source := by
    rw [reports.snippet, String.toList_ofList]
  refine ⟨fits.position_eq.symm.trans place, ?_, ?_⟩
  · rw [snippet]
    exact fits.slice_eq
  · rw [snippet, ← place]
    exact fits.textFrom_position small

namespace PatternRuleSet

theorem node_mem_descendants {origin : Origin} (member : origin ∈ origins set script hierarchy) :
    origin.place.node ∈ script.root.descendants := by
  obtain ⟨typed, owned, under⟩ := mem_origins member
  have type := (Site.mem_typeSites.mp typed).1
  have method := Site.mem_below_iff.mp (List.mem_of_mem_filter owned)
  exact ((type.trans method).trans under).mem_descendants

-- The two positions of a node agree in a source of any size. One reads from a position only where its words hold it.
theorem issues_show_source (set : PatternRuleSet) (script : ParsedScript) (hierarchy : TypeHierarchy) :
    (∀ source node, SyntaxNode.Fits source node →
      node.position source = (LineIndex.ofText source).position node.label.start) ∧
    (byteSize script.source < UInt32.size → (∀ node ∈ script.root.descendants, node.Fits script.source) →
      ∀ issue ∈ set.analyze script hierarchy, ∃ node ∈ script.root.descendants, issue.Shows script.source node) := by
  refine ⟨fun source node fits => fits.position_eq, ?_⟩
  intro small fitting issue member
  obtain ⟨origin, listed, reports⟩ := exists_related (analyze_origins set script hierarchy) member
  have inside := node_mem_descendants listed
  exact ⟨origin.place.node, inside, reports.shows (fitting _ inside) small⟩

def searchScript : ParsedScript :=
  .parse "Search.cs" "class Search : MonoBehaviour \x7b\r\n void Update() \x7b /* é */ Find(\"a\"); \x7d \x7d"

theorem issues_show_source_search :
    (∀ node ∈ searchScript.root.descendants, node.Fits searchScript.source ∧
      node.position searchScript.source = (LineIndex.ofText searchScript.source).position node.label.start) ∧
    byteSize searchScript.source < UInt32.size ∧
    ∃ issue ∈ builtin.analyze searchScript (.ofTable []),
      (issue.line, issue.column, issue.codeSnippet) = (1, 25, "Find(\"a\")") ∧
        ∃ node ∈ searchScript.root.descendants, issue.Shows searchScript.source node := by
  have fitting : ∀ node ∈ searchScript.root.descendants, node.Fits searchScript.source := by decide +kernel
  have small : byteSize searchScript.source < UInt32.size := by decide +kernel
  have bases : ∀ declaration ∈ searchScript.typeDeclarations,
      "MonoBehaviour" ∈ declaration.declaredBases searchScript.source := by
    decide +kernel
  have components : componentsOf searchScript (.ofTable []) = searchScript.typeDeclarations := by
    refine List.filter_eq_self.mpr fun declaration declared => (isComponentDeclaration_iff _ _ _).mpr ⟨[], ?_, by simp⟩
    exact .root (bases declaration declared) (by decide +kernel)
  have issues : (builtin.analyze searchScript (.ofTable [])).map (fun issue =>
      (issue.line, issue.column, issue.codeSnippet)) = [(1, 25, "Find(\"a\")")] := by
    rw [analyze, components]
    decide +kernel
  obtain ⟨issue, only, shown⟩ := List.map_eq_singleton_iff.mp issues
  have member : issue ∈ builtin.analyze searchScript (.ofTable []) := only ▸ List.mem_singleton_self _
  obtain ⟨agree, pointed⟩ := issues_show_source builtin searchScript (.ofTable [])
  refine ⟨?_, small, issue, member, shown, pointed small fitting issue member⟩
  intro node inside
  exact ⟨fitting node inside, agree searchScript.source node (fitting node inside)⟩

end PatternRuleSet

end ScriptAudit
