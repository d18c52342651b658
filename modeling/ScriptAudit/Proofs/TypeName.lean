import ScriptAudit.Proofs.Text.Blank
import ScriptAudit.Proofs.Text.Pieces
import ScriptAudit.TypeName

namespace ScriptAudit

namespace TypeName

open Text

-- What `simple` leaves: nothing in it can be cut a second time.
structure IsSimple (name : List Char) : Prop where
  bare : '<' ∉ name
  unaliased : ¬ [':', ':'] <:+: name
  unqualified : '.' ∉ name
  trimmed : trim name = name

theorem simple_infix_unaliased (name : List Char) :
    simple name <:+: afterLastPair ':' (beforeFirst '<' (trim name)) :=
  (trim_isInfix _).trans (afterLast_isSuffix '.' _).isInfix

theorem simple_infix_opened (name : List Char) : simple name <:+: beforeFirst '<' (trim name) :=
  (simple_infix_unaliased name).trans (afterLastPair_isSuffix ':' _).isInfix

theorem simple_isInfix (name : List Char) : simple name <:+: name := by
  have opened : beforeFirst '<' (trim name) <+: trim name := List.takeWhile_prefix _
  exact (simple_infix_opened name).trans (opened.isInfix.trans (trim_isInfix name))

theorem isSimple_simple (name : List Char) : IsSimple (simple name) := by
  refine ⟨?_, ?_, ?_, ?_⟩
  · intro found
    exact not_mem_beforeFirst '<' (trim name) ((simple_infix_opened name).subset found)
  · intro found
    exact no_pair_in_afterLastPair ':' _ (found.trans (simple_infix_unaliased name))
  · intro found
    exact not_mem_afterLast '.' _ ((trim_isInfix _).subset found)
  · exact trim_trim _

theorem simple_eq_self {name : List Char} (shape : IsSimple name) : simple name = name := by
  rw [simple, shape.trimmed, beforeFirst_eq_self shape.bare, afterLastPair_eq_self shape.unaliased,
    afterLast_eq_self shape.unqualified, shape.trimmed]

theorem normalize_normalize (name : String) : normalize (normalize name) = normalize name := by
  unfold normalize
  rw [String.toList_ofList, simple_eq_self (isSimple_simple _)]

end TypeName

end ScriptAudit
