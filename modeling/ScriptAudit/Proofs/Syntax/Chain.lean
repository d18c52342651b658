import ScriptAudit.Proofs.Syntax.Ownership
import ScriptAudit.Syntax.Query

namespace ScriptAudit

namespace SyntaxNode

variable {node left right chain first next : SyntaxNode} {others : List SyntaxNode}

def IsPlain (node : SyntaxNode) : Prop :=
  ∀ part ∈ node :: node.descendants, part.isSum = false ∧ part.kind ≠ .interpolatedString

instance (node : SyntaxNode) : Decidable node.IsPlain := inferInstanceAs (Decidable (∀ _ ∈ _, _ ∧ _))

-- A sum of two operands: it starts where the left one starts, and between the two there is nothing but the sign and
-- what is as plain, such as comments.
structure IsSumOf (node left right : SyntaxNode) : Prop where
  sum : node.isSum = true
  onLeft : node.child? .left = some left
  onRight : node.child? .right = some right
  parts : ∃ between, node.children = left :: (between ++ [right]) ∧ ∀ part ∈ between, part.IsPlain
  start : node.label.start = left.label.start
  row : node.label.row = left.label.row
  byteColumn : node.label.byteColumn = left.label.byteColumn

-- A chain of sums that leans to the left, with its first operand and the others in their order.
inductive SumChain (first : SyntaxNode) : SyntaxNode → List SyntaxNode → Prop where
  | pair {node second : SyntaxNode} : IsSumOf node first second → SumChain first node [second]
  | longer {node chain next : SyntaxNode} {others : List SyntaxNode} : SumChain first chain others →
      IsSumOf node chain next → SumChain first node (others ++ [next])

theorem IsSumOf.position_eq (sum : IsSumOf node left right) (source : List Char) :
    node.position source = left.position source := by
  rw [position, position, sum.start, sum.row, sum.byteColumn]

theorem IsSumOf.isStringLiteral (sum : IsSumOf node left right) : node.isStringLiteral = false := by
  have joined := sum.sum
  unfold isSum at joined
  rw [Bool.and_eq_true, beq_iff_eq] at joined
  rw [SyntaxNode.isStringLiteral, joined.1]

theorem SumChain.isStringLiteral (summed : SumChain first chain others) : chain.isStringLiteral = false := by
  cases summed with
  | pair sum => exact sum.isStringLiteral
  | longer _ sum => exact sum.isStringLiteral

theorem SumChain.ne_nil (summed : SumChain first chain others) : others ≠ [] := by
  cases summed with
  | pair _ => exact List.cons_ne_nil _ _
  | longer _ _ => exact List.append_ne_nil_of_right_ne_nil _ (List.cons_ne_nil _ _)

theorem SumChain.position_eq (summed : SumChain first chain others) (source : List Char) :
    chain.position source = first.position source := by
  induction summed with
  | pair sum => exact sum.position_eq source
  | longer _ sum ih => exact (sum.position_eq source).trans ih

theorem forest_append (nodes later : List SyntaxNode) : forest (nodes ++ later) = forest nodes ++ forest later := by
  induction nodes with
  | nil => rfl
  | cons node rest ih => simp [forest, ih]

theorem IsSumOf.descendants_eq (sum : IsSumOf node left right) : ∃ between, (∀ part ∈ between, part.IsPlain) ∧
    node.descendants = (left :: left.descendants) ++ forest between ++ (right :: right.descendants) := by
  obtain ⟨between, parts, plain⟩ := sum.parts
  obtain ⟨label, children⟩ := node
  refine ⟨between, plain, ?_⟩
  change children = _ at parts
  rw [parts]
  simp [descendants, forest, forest_append]

mutual

theorem infix_of_mem_descendants : (root : SyntaxNode) → node ∈ root.descendants →
    node :: node.descendants <:+: root.descendants
  | .mk _ children, below => infix_of_mem_forest children below

theorem infix_of_mem_forest : (nodes : List SyntaxNode) → node ∈ forest nodes →
    node :: node.descendants <:+: forest nodes
  | [], below => by cases below
  | child :: rest, below => by
    rw [forest] at below ⊢
    rcases List.mem_cons.mp below with here | below
    · rw [here, ← List.cons_append]
      exact (List.prefix_append _ _).isInfix
    rcases List.mem_append.mp below with inside | beside
    · have within := infix_of_mem_descendants child inside
      exact (within.trans (List.prefix_append _ _).isInfix).trans (List.suffix_cons _ _).isInfix
    · have within := infix_of_mem_forest rest beside
      exact (within.trans (List.suffix_append _ _).isInfix).trans (List.suffix_cons _ _).isInfix

end

end SyntaxNode

end ScriptAudit
