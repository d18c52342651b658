import ScriptAudit.Pattern.Finding

namespace ScriptAudit

namespace SyntaxNode

def IsAccess (source : List Char) (node : SyntaxNode) (receiver name : String) : Prop :=
  node.kind = .memberAccess ∧
    (∃ written ∈ node.child? .expression, Text.trim (written.text source) = receiver.toList) ∧
      ∃ member ∈ node.child? .name, member.simpleName source = some name.toList

theorem memberAccessParts_iff (source : List Char) (node : SyntaxNode) (receiver name : String) :
    node.memberAccessParts source = some (receiver.toList, name.toList) ↔ node.IsAccess source receiver name := by
  unfold memberAccessParts IsAccess
  by_cases access : node.kind = .memberAccess
  · cases node.child? .expression with
    | none => simp [access]
    | some written =>
      cases node.child? .name with
      | none => simp [access]
      | some member => cases found : member.simpleName source <;> simp [access, found]
  · simp [access]

def HasLiteral (node : SyntaxNode) (side : Field) : Prop :=
  ∃ operand ∈ node.child? side, operand.isStringLiteral = true

theorem isLiteralOperand_iff (node : SyntaxNode) (side : Field) :
    node.isLiteralOperand side = true ↔ node.HasLiteral side := by
  unfold isLiteralOperand HasLiteral
  cases node.child? side <;> simp

theorem isSum_iff (node : SyntaxNode) :
    node.isSum = true ↔ node.kind = .binary ∧ ∃ sign ∈ node.child? .operator, sign.kind = .operator "+" := by
  unfold isSum
  cases node.child? .operator <;> simp

end SyntaxNode

namespace PatternRule

def Matches (source : List Char) (node : SyntaxNode) : PatternRule → Prop
  | .expensiveCall => node.kind = .invocation ∧ ∃ function ∈ node.child? .function,
      ∃ callee ∈ expensiveCalls.map (·.1), function.simpleName source = some callee.toList
  | .stringAllocation =>
      ((node.kind = .binary ∧ ∃ sign ∈ node.child? .operator, sign.kind = .operator "+") ∧
          (node.HasLiteral .left ∨ node.HasLiteral .right)) ∨
        node.kind = .interpolatedString
  | .debugLog => node.kind = .invocation ∧ ∃ function ∈ node.child? .function,
      ∃ name ∈ ["Log", "LogWarning", "LogError"], function.IsAccess source "Debug" name
  | .mainCamera => node.IsAccess source "Camera" "main"

theorem expensiveCallSuggestion_isSome_iff (callee : List Char) :
    (expensiveCallSuggestion (String.ofList callee)).isSome = true ↔
      ∃ name ∈ expensiveCalls.map (·.1), callee = name.toList := by
  rw [expensiveCallSuggestion, List.lookup_isSome_iff]
  constructor
  · rintro ⟨entry, listed, same⟩
    refine ⟨entry.1, List.mem_map_of_mem listed, ?_⟩
    rw [← eq_of_beq same, String.toList_ofList]
  · rintro ⟨name, listed, rfl⟩
    obtain ⟨entry, member, rfl⟩ := List.mem_map.mp listed
    exact ⟨entry, member, by simp⟩

theorem expensiveCallee_isSome_iff (source : List Char) (node : SyntaxNode) :
    (expensiveCallee source node).isSome = true ↔ expensiveCall.Matches source node := by
  unfold expensiveCallee Matches SyntaxNode.calleeName
  by_cases invoked : node.kind = .invocation
  · cases node.child? .function with
    | none => simp [invoked]
    | some function =>
      cases named : function.simpleName source with
      | none => simp [invoked, named]
      | some callee =>
        have advised := expensiveCallSuggestion_isSome_iff callee
        cases found : expensiveCallSuggestion (String.ofList callee) with
        | none =>
          rw [found] at advised
          simpa [invoked, named, found] using advised
        | some advice =>
          rw [found] at advised
          simpa [invoked, named, found] using advised
  · simp [invoked]

theorem isConcatenation_iff (node : SyntaxNode) : isConcatenation node = true ↔
    (node.kind = .binary ∧ ∃ sign ∈ node.child? .operator, sign.kind = .operator "+") ∧
      (node.HasLiteral .left ∨ node.HasLiteral .right) := by
  rw [isConcatenation, Bool.and_eq_true, Bool.or_eq_true, SyntaxNode.isSum_iff, SyntaxNode.isLiteralOperand_iff,
    SyntaxNode.isLiteralOperand_iff]

theorem isDebugLog_iff (source : List Char) (node : SyntaxNode) :
    isDebugLog source node = true ↔ debugLog.Matches source node := by
  unfold isDebugLog Matches
  simp only [← SyntaxNode.memberAccessParts_iff]
  by_cases invoked : node.kind = .invocation
  · cases node.child? .function with
    | none => simp [invoked]
    | some function =>
      cases parts : function.memberAccessParts source with
      | none => simp [invoked, parts]
      | some pair =>
        obtain ⟨receiver, name⟩ := pair
        have same (text : String) : String.ofList name = text ↔ name = text.toList :=
          ⟨fun equal => by rw [← equal, String.toList_ofList], fun equal => by rw [equal, String.ofList_toList]⟩
        have spread (a b c d : Prop) : a ∧ (b ∨ c ∨ d) ↔ a ∧ b ∨ a ∧ c ∨ a ∧ d := by
          rw [and_or_left, and_or_left]
        simpa [invoked, parts, logMethods, same] using spread _ _ _ _
  · simp [invoked]

theorem isMainCamera_iff (source : List Char) (node : SyntaxNode) :
    isMainCamera source node = true ↔ mainCamera.Matches source node := by
  rw [Matches, ← SyntaxNode.memberAccessParts_iff, isMainCamera]
  cases node.memberAccessParts source with
  | none => simp
  | some parts => cases parts; simp

theorem remark?_isSome_iff (rule : PatternRule) (context : MethodContext) (node : SyntaxNode) :
    (rule.remark? context node).isSome = true ↔ rule.Matches context.source node := by
  cases rule with
  | expensiveCall => rw [remark?, Option.isSome_map, expensiveCallee_isSome_iff]
  | stringAllocation =>
    rw [remark?, Matches, ← isConcatenation_iff]
    cases isConcatenation node <;> cases same : node.kind == .interpolatedString <;> simp_all
  | debugLog =>
    rw [remark?, ← isDebugLog_iff]
    cases isDebugLog context.source node <;> simp
  | mainCamera =>
    rw [remark?, ← isMainCamera_iff]
    cases isMainCamera context.source node <;> simp

end PatternRule

end ScriptAudit
