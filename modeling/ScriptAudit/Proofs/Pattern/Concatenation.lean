import Mathlib.Data.List.Forall2
import ScriptAudit.Proofs.Pattern.Analysis
import ScriptAudit.Proofs.Syntax.Chain
import ScriptAudit.Syntax.Grammar.Script

namespace ScriptAudit

open SyntaxNode

variable {context : MethodContext} {rule : PatternRule} {node left right first chain next : SyntaxNode}
  {others : List SyntaxNode}

namespace MethodContext

def raised (context : MethodContext) (rule : PatternRule) (nodes : List SyntaxNode) : List PatternIssue :=
  nodes.filterMap fun node => (rule.remark? context node).map (context.issue rule node)

def raisedWithin (context : MethodContext) (rule : PatternRule) (node : SyntaxNode) : List PatternIssue :=
  context.raised rule (node :: node.descendants)

theorem raised_append (nodes later : List SyntaxNode) :
    context.raised rule (nodes ++ later) = context.raised rule nodes ++ context.raised rule later :=
  List.filterMap_append

theorem check_eq (context : MethodContext) (rule : PatternRule) :
    context.check rule = context.raised rule context.method.descendants := by
  rw [check, walk_eq_descendants]
  rfl

theorem exists_check_split (rule : PatternRule) (below : node ∈ context.method.descendants) : ∃ before later,
    context.method.descendants = before ++ (node :: node.descendants) ++ later ∧
      context.check rule =
        context.raised rule before ++ context.raisedWithin rule node ++ context.raised rule later := by
  obtain ⟨before, later, whole⟩ := infix_of_mem_descendants context.method below
  refine ⟨before, later, whole.symm, ?_⟩
  rw [check_eq, ← whole, raised_append, raised_append, raisedWithin]

theorem raised_plain {nodes : List SyntaxNode}
    (plain : ∀ node ∈ nodes, node.isSum = false ∧ node.kind ≠ .interpolatedString) :
    context.raised .stringAllocation nodes = [] := by
  unfold raised
  rw [List.filterMap_eq_nil_iff]
  intro node member
  obtain ⟨single, written⟩ := plain node member
  simp [PatternRule.remark?, isConcatenation, single, written]

theorem raisedWithin_plain (plain : node.IsPlain) : context.raisedWithin .stringAllocation node = [] :=
  raised_plain plain

theorem raised_forest_plain {nodes : List SyntaxNode} (plain : ∀ node ∈ nodes, node.IsPlain) :
    context.raised .stringAllocation (forest nodes) = [] := by
  induction nodes with
  | nil => rfl
  | cons node rest ih =>
    obtain ⟨here, others⟩ := List.forall_mem_cons.mp plain
    rw [forest, ← List.cons_append, raised_append, ih others, List.append_nil]
    exact raised_plain here

def concatenationIssue (context : MethodContext) (node : SyntaxNode) : PatternIssue :=
  context.issue .stringAllocation node (.concatenation context.name)

theorem raised_sum (sum : IsSumOf node left right) : context.raised .stringAllocation [node] =
    if left.isStringLiteral || right.isStringLiteral then [context.concatenationIssue node] else [] := by
  have kind : node.kind ≠ .interpolatedString := by
    obtain ⟨binary, _⟩ := (isSum_iff node).mp sum.sum
    rw [binary]
    exact nofun
  have joins : isConcatenation node = (left.isStringLiteral || right.isStringLiteral) := by
    simp [isConcatenation, isLiteralOperand, sum.sum, sum.onLeft, sum.onRight]
  cases literal : left.isStringLiteral || right.isStringLiteral <;>
    simp [raised, PatternRule.remark?, joins, literal, kind, concatenationIssue]

-- The node comes first, then what its left operand holds. Nothing else is raised.
theorem raisedWithin_sum (sum : IsSumOf node left right) (plain : right.IsPlain) :
    context.raisedWithin .stringAllocation node =
      (if left.isStringLiteral || right.isStringLiteral then [context.concatenationIssue node] else []) ++
        context.raisedWithin .stringAllocation left := by
  obtain ⟨between, quiet, below⟩ := sum.descendants_eq
  rw [raisedWithin, ← List.singleton_append, below, raised_append, raised_append, raised_append, raised_sum sum,
    raised_forest_plain quiet, raised_plain plain, List.append_nil, List.append_nil, raisedWithin]

theorem raisedWithin_pair (sum : IsSumOf node left right) (start : left.IsPlain) (plain : right.IsPlain) :
    context.raisedWithin .stringAllocation node =
      if left.isStringLiteral || right.isStringLiteral then [context.concatenationIssue node] else [] := by
  rw [raisedWithin_sum sum plain, raisedWithin_plain start, List.append_nil]

theorem raisedWithin_longer (summed : SumChain first chain others) (sum : IsSumOf node chain next)
    (plain : next.IsPlain) : context.raisedWithin .stringAllocation node =
      (if next.isStringLiteral then [context.concatenationIssue node] else []) ++
        context.raisedWithin .stringAllocation chain := by
  rw [raisedWithin_sum sum plain, summed.isStringLiteral, Bool.false_or]

theorem length_raisedWithin (summed : SumChain first node others)
    (plain : ∀ operand ∈ first :: others, operand.IsPlain) :
    (context.raisedWithin .stringAllocation node).length = others.countP (·.isStringLiteral) +
      if first.isStringLiteral && !others.head?.any (·.isStringLiteral) then 1 else 0 := by
  obtain ⟨start, quiet⟩ := List.forall_mem_cons.mp plain
  induction summed with
  | @pair node second sum =>
    rw [raisedWithin_pair sum start (quiet second (List.mem_singleton_self _))]
    cases literal : first.isStringLiteral <;> cases literal' : second.isStringLiteral <;> simp [literal']
  | @longer node chain next others summed sum ih =>
    obtain ⟨before, last⟩ := List.forall_mem_append.mp quiet
    have shorter := ih (List.forall_mem_cons.mpr ⟨start, before⟩) before
    have head : (others ++ [next]).head? = others.head? := List.head?_append_of_ne_nil _ summed.ne_nil
    rw [raisedWithin_longer summed sum (last next (List.mem_singleton_self _)), List.length_append, shorter, head,
      List.countP_append, List.countP_singleton]
    cases next.isStringLiteral
    · simp
    · simp
      omega

end MethodContext

def reportsEnd (first : SyntaxNode) (others : List SyntaxNode) (index : Nat) : Bool :=
  others[index]?.any (·.isStringLiteral) || (index == 0 && first.isStringLiteral)

def reportedEnds (first : SyntaxNode) (others : List SyntaxNode) : List Nat :=
  ((List.range others.length).filter (reportsEnd first others)).reverse

theorem reportedEnds_snoc (first next : SyntaxNode) (some : others ≠ []) : reportedEnds first (others ++ [next]) =
    (if next.isStringLiteral then [others.length] else []) ++ reportedEnds first others := by
  have last : reportsEnd first (others ++ [next]) others.length = next.isStringLiteral := by
    simp [reportsEnd, some]
  have earlier : ∀ index ∈ List.range others.length,
      reportsEnd first (others ++ [next]) index = reportsEnd first others index := by
    intro index within
    rw [reportsEnd, List.getElem?_append_left (List.mem_range.mp within), reportsEnd]
  unfold reportedEnds
  rw [List.length_append, List.length_singleton, List.range_succ, List.filter_append, List.filter_congr earlier,
    List.reverse_append, List.filter_singleton, last]
  cases next.isStringLiteral <;> rfl

theorem reportedEnds_pair (first second : SyntaxNode) : reportedEnds first [second] =
    if first.isStringLiteral || second.isStringLiteral then [0] else [] := by
  have only : reportsEnd first [second] 0 = (first.isStringLiteral || second.isStringLiteral) := by
    simp [reportsEnd, Bool.or_comm]
  have one : List.range [second].length = [0] := rfl
  rw [reportedEnds, one, List.filter_singleton, only]
  cases first.isStringLiteral || second.isStringLiteral <;> rfl

-- What an issue says of the part of a chain that ends with one of the operands behind the first.
structure ReportsPart (context : MethodContext) (first node : SyntaxNode) (others : List SyntaxNode)
    (issue : PatternIssue) (index : Nat) : Prop where
  inside : index < others.length
  rule : issue.rule = .stringAllocation
  snippet : ∃ part ∈ node :: node.descendants, SumChain first part (others.take (index + 1)) ∧
    issue.codeSnippet = String.ofList (part.text context.source)
  place : ⟨issue.line, issue.column⟩ = first.position context.source

theorem reportsPart_whole (context : MethodContext) (summed : SumChain first node (others ++ [next])) :
    ReportsPart context first node (others ++ [next]) (context.concatenationIssue node) others.length := by
  refine ⟨by simp, rfl, ⟨node, List.mem_cons_self, ?_, rfl⟩, summed.position_eq context.source⟩
  rw [List.take_of_length_le (by simp)]
  exact summed

theorem ReportsPart.longer {issue : PatternIssue} {index : Nat}
    (reports : ReportsPart context first chain others issue index) (sum : IsSumOf node chain next) :
    ReportsPart context first node (others ++ [next]) issue index := by
  obtain ⟨part, below, summed, text⟩ := reports.snippet
  obtain ⟨between, _, whole⟩ := sum.descendants_eq
  have inside := reports.inside
  refine ⟨by simp; omega, reports.rule, ⟨part, ?_, ?_, text⟩, reports.place⟩
  · rw [whole]
    exact List.mem_cons_of_mem _ (List.mem_append_left _ (List.mem_append_left _ below))
  · rw [List.take_append_of_le_length inside]
    exact summed

theorem reports_chain (summed : SumChain first node others) (plain : ∀ operand ∈ first :: others, operand.IsPlain) :
    List.Forall₂ (ReportsPart context first node others) (context.raisedWithin .stringAllocation node)
      (reportedEnds first others) := by
  obtain ⟨start, quiet⟩ := List.forall_mem_cons.mp plain
  induction summed with
  | @pair node second sum =>
    have summed : SumChain first node ([] ++ [second]) := .pair sum
    rw [MethodContext.raisedWithin_pair sum start (quiet second (List.mem_singleton_self _)), reportedEnds_pair]
    split
    · exact .cons (reportsPart_whole context summed) .nil
    · exact .nil
  | @longer node chain next others summed sum ih =>
    obtain ⟨before, last⟩ := List.forall_mem_append.mp quiet
    have shorter := (ih (List.forall_mem_cons.mpr ⟨start, before⟩) before).imp fun issue index reports =>
      reports.longer sum
    rw [MethodContext.raisedWithin_longer summed sum (last next (List.mem_singleton_self _)),
      reportedEnds_snoc first next summed.ne_nil]
    refine List.rel_append ?_ shorter
    split
    · exact .cons (reportsPart_whole context (.longer summed sum)) .nil
    · exact .nil

theorem mem_reportedEnds {index : Nat} : index ∈ reportedEnds first others ↔
    (∃ operand ∈ others[index]?, operand.isStringLiteral = true) ∨
      index = 0 ∧ others ≠ [] ∧ first.isStringLiteral = true := by
  rw [reportedEnds, List.mem_reverse, List.mem_filter, List.mem_range, reportsEnd]
  by_cases inside : index < others.length
  · have some : others ≠ [] := List.ne_nil_of_length_pos (Nat.zero_lt_of_lt inside)
    simp [inside, some]
  · have other : ¬ (index = 0 ∧ others ≠ [] ∧ first.isStringLiteral = true) := by
      rintro ⟨rfl, some, _⟩
      exact inside (List.length_pos_iff.mpr some)
    simp [inside, other]

theorem decreasing_reportedEnds (first : SyntaxNode) (others : List SyntaxNode) :
    (reportedEnds first others).Pairwise (· > ·) :=
  List.pairwise_reverse.mpr (List.pairwise_lt_range.filter _)

namespace PatternRuleSet

variable {set : PatternRuleSet} {script : ParsedScript} {hierarchy : TypeHierarchy} {owner second : SyntaxNode}
  {rest : List SyntaxNode}

-- What a rule raises in a method of a component is a stretch of the issues of the script.
theorem check_infix_analyze (component : owner ∈ componentsOf script hierarchy)
    (method : context ∈ methodsOf script owner) (registered : rule ∈ set.rules)
    (applies : set.applies context rule = true) : context.check rule <:+: set.analyze script hierarchy := by
  have runs : rule ∈ set.rules.filter (set.applies context) := List.mem_filter.mpr ⟨registered, applies⟩
  have seen : context ∈ (componentsOf script hierarchy).flatMap (methodsOf script) :=
    List.mem_flatMap.mpr ⟨owner, component, method⟩
  have inRun : context.check rule <:+: set.run context := List.infix_of_mem_flatten (List.mem_map_of_mem runs)
  exact inRun.trans (List.infix_of_mem_flatten (List.mem_map_of_mem seen))

-- The issues of a chain are those that are raised at its node and below. The part of a chain that ends with an operand
-- behind the first is the sum of all operands up to that one.
theorem concatenation_chains (registered : .stringAllocation ∈ set.rules)
    (enabled : set.isEnabled .stringAllocation = true) (component : owner ∈ componentsOf script hierarchy)
    (method : context ∈ methodsOf script owner) (hot : context.isHotPath = true)
    (below : node ∈ context.method.descendants) (summed : SumChain first node (second :: rest))
    (plain : ∀ operand ∈ first :: second :: rest, operand.IsPlain) :
    let issues := context.raisedWithin .stringAllocation node
    context.check .stringAllocation <:+: set.analyze script hierarchy ∧
    (∃ before later, context.method.descendants = before ++ (node :: node.descendants) ++ later ∧
      context.check .stringAllocation =
        context.raised .stringAllocation before ++ issues ++ context.raised .stringAllocation later) ∧
    issues.length = (second :: rest).countP (·.isStringLiteral) +
      (if first.isStringLiteral && !second.isStringLiteral then 1 else 0) ∧
    ∃ ends : List Nat, List.Forall₂ (ReportsPart context first node (second :: rest)) issues ends ∧
      ends.Pairwise (· > ·) ∧
      ∀ index, index ∈ ends ↔ (∃ operand ∈ (second :: rest)[index]?, operand.isStringLiteral = true) ∨
        index = 0 ∧ first.isStringLiteral = true := by
  intro issues
  have applies : set.applies context .stringAllocation = true := by
    simp [PatternRuleSet.applies, enabled, hot]
  refine ⟨check_infix_analyze component method registered applies, context.exists_check_split _ below,
    MethodContext.length_raisedWithin summed plain, reportedEnds first (second :: rest), reports_chain summed plain,
    decreasing_reportedEnds _ _, ?_⟩
  intro index
  rw [mem_reportedEnds]
  simp only [ne_eq, reduceCtorEq, not_false_eq_true, true_and]

def plusAt (start : Nat) : SyntaxNode := part (.operator "+") (some .operator) start (start + 1) []

def hudLabel : SyntaxNode := part (.stringLiteral .regular) (some .left) 47 53 []

def hudPoints : SyntaxNode := part .identifier (some .right) 56 58 []

def hudBar : SyntaxNode := part (.stringLiteral .regular) (some .right) 61 64 []

def hudMost : SyntaxNode := part .identifier (some .right) 67 70 []

def hudPair : SyntaxNode := part .binary (some .left) 47 58 [hudLabel, plusAt 54, hudPoints]

def hudTriple : SyntaxNode := part .binary (some .left) 47 64 [hudPair, plusAt 59, hudBar]

def hudSum : SyntaxNode := part .binary (some .right) 47 70 [hudTriple, plusAt 65, hudMost]

def hudMethod : SyntaxNode := part .methodDeclaration none 28 73 [
  part .type none 28 32 [],
  part .identifier (some .name) 33 38 [],
  part .parameters none 38 40 [],
  part .block none 41 73 [
    part .statement none 43 71 [
      part .assignment none 43 70 [part .identifier (some .left) 43 44 [], hudSum]]]]

def hudClass : SyntaxNode := part .classDeclaration none 0 75 [
  part .identifier (some .name) 6 9 [],
  part .baseList none 10 25 [part .identifier none 12 25 []],
  part .body none 26 75 [hudMethod]]

def hudScript : ParsedScript where
  path := "Hud.cs"
  source := "class Hud : MonoBehaviour \x7b void OnGUI() \x7b s = \"hp: \" + hp + \"/\" + max; \x7d \x7d".toList
  root := part .compilationUnit none 0 75 [hudClass]
  hasErrors := false

def hudContext : MethodContext := ⟨"Hud.cs", hudScript.source, hudMethod, "OnGUI", true⟩

theorem sumChain_hud : SumChain hudLabel hudSum [hudPoints, hudBar, hudMost] := by
  have pair : IsSumOf hudPair hudLabel hudPoints := ⟨rfl, rfl, rfl, ⟨[plusAt 54], rfl, by decide⟩, rfl, rfl, rfl⟩
  have triple : IsSumOf hudTriple hudPair hudBar := ⟨rfl, rfl, rfl, ⟨[plusAt 59], rfl, by decide⟩, rfl, rfl, rfl⟩
  have sum : IsSumOf hudSum hudTriple hudMost := ⟨rfl, rfl, rfl, ⟨[plusAt 65], rfl, by decide⟩, rfl, rfl, rfl⟩
  exact .longer (.longer (.pair pair) triple) sum

theorem concatenation_chains_hud :
    let hierarchy := TypeHierarchy.ofTable []
    hudClass ∈ componentsOf hudScript hierarchy ∧ hudContext ∈ methodsOf hudScript hudClass ∧
    hudSum ∈ hudContext.method.descendants ∧ SumChain hudLabel hudSum [hudPoints, hudBar, hudMost] ∧
    (hudContext.raisedWithin .stringAllocation hudSum).length = 2 ∧
    hudContext.check .stringAllocation <:+: builtin.analyze hudScript hierarchy := by
  intro hierarchy
  have listed : "MonoBehaviour" ∈ hudClass.declaredBases hudScript.source := by decide +kernel
  have climb : hierarchy.Climb (hudClass.declaredBases hudScript.source) [] := .root listed (by decide +kernel)
  have component : hudClass ∈ componentsOf hudScript hierarchy := by
    refine List.mem_filter.mpr ⟨?_, (isComponentDeclaration_iff _ _ _).mpr ⟨[], climb, by simp⟩⟩
    have types : hudScript.typeDeclarations = [hudClass] := by
      rw [ParsedScript.typeDeclarations, SyntaxNode.typeDeclarations, walk_eq_descendants]
      rfl
    rw [types]
    exact List.mem_singleton_self _
  have method : hudContext ∈ methodsOf hudScript hudClass := by
    refine List.mem_filterMap.mpr ⟨hudMethod, List.mem_singleton_self _, ?_⟩
    have name : hudMethod.declaredName hudScript.source = some "OnGUI" := by decide +kernel
    have hot : isHotPath "OnGUI" = true := by decide +kernel
    rw [name, Option.map_some, hot]
    rfl
  have below : hudSum ∈ hudContext.method.descendants := by
    simp [hudContext, hudMethod, part, descendants, forest]
  have registered : PatternRule.stringAllocation ∈ builtin.rules := by decide
  have enabled : builtin.isEnabled .stringAllocation = true := rfl
  have plain : ∀ operand ∈ [hudLabel, hudPoints, hudBar, hudMost], operand.IsPlain := by
    decide
  obtain ⟨analyzed, _, counted, _⟩ :=
    concatenation_chains registered enabled component method rfl below sumChain_hud plain
  exact ⟨component, method, below, sumChain_hud, counted, analyzed⟩

example : hudScript.root.descendants.map label =
    (ParsedScript.parse "Hud.cs" (String.ofList hudScript.source)).root.descendants.map label := by
  decide +kernel

end PatternRuleSet

end ScriptAudit
