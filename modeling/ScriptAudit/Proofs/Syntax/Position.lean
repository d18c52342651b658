import ScriptAudit.Proofs.Text.Position
import ScriptAudit.Syntax.Node

namespace ScriptAudit

namespace SyntaxNode

open Text

-- A node in its place in a source: its point counts the line feeds in front of it and the bytes since the last of them,
-- and its bytes run from there to a boundary of the source.
structure Fits (source : List Char) (node : SyntaxNode) : Prop where
  behind : ∃ before after, source = before ++ after ∧ byteSize before = node.label.start ∧
    node.label.row = before.count '\n' ∧ node.label.byteColumn = byteSize (afterLast '\n' before)
  ordered : node.label.start ≤ node.label.stop
  ended : IsBoundary source node.label.stop

variable {source : List Char} {node : SyntaxNode}

theorem fits_iff : node.Fits source ↔
    (∃ before ∈ takeBytes node.label.start source,
      node.label.row = before.count '\n' ∧ node.label.byteColumn = byteSize (afterLast '\n' before)) ∧
    node.label.start ≤ node.label.stop ∧ IsBoundary source node.label.stop := by
  constructor
  · rintro ⟨⟨before, after, rfl, size, point⟩, ordered, ended⟩
    exact ⟨⟨before, size ▸ takeBytes_append before after, point⟩, ordered, ended⟩
  · rintro ⟨⟨before, taken, point⟩, ordered, ended⟩
    obtain ⟨after, same, size⟩ := append_of_takeBytes taken
    exact ⟨⟨before, after, same, size, point⟩, ordered, ended⟩

instance (source : List Char) (node : SyntaxNode) : Decidable (node.Fits source) := decidable_of_iff _ fits_iff.symm

theorem Fits.position_eq (fits : node.Fits source) :
    node.position source = (LineIndex.ofText source).position node.label.start := by
  obtain ⟨before, after, rfl, size, row, column⟩ := fits.behind
  obtain ⟨front, opened, _⟩ := exists_append_afterLast before
  have whole : byteSize before = byteSize front + byteSize (afterLast '\n' before) := by
    conv_lhs => rw [opened, byteSize_append]
  have start : byteSize before - byteSize (afterLast '\n' before) = byteSize front := by omega
  rw [position, ← size, row, column, start, LineIndex.slice_afterLast opened, LineIndex.position_append]

theorem Fits.exists_parts (fits : node.Fits source) : ∃ before after,
    source = before ++ (node.text source ++ after) ∧ byteSize before = node.label.start ∧
      byteSize (before ++ node.text source) = node.label.stop := by
  obtain ⟨before, rest, same, start, _⟩ := fits.behind
  obtain ⟨longer, after, same', stop⟩ := fits.ended
  have less : byteSize before ≤ byteSize longer := by
    rw [start, stop]
    exact fits.ordered
  obtain ⟨covered, rfl, rfl⟩ := exists_append_of_byteSize_le (same.symm.trans same') less
  have text : node.text source = covered := by
    rw [SyntaxNode.text, ← start, ← stop, same, slice_append, Option.getD_some]
  rw [text]
  exact ⟨before, after, same, start, stop⟩

theorem Fits.slice_eq (fits : node.Fits source) :
    slice source node.label.start node.label.stop = some (node.text source) := by
  obtain ⟨before, after, same, start, stop⟩ := fits.exists_parts
  have sliced := slice_append before (node.text source) after
  rwa [← same, start, stop] at sliced

theorem Fits.textFrom_position (fits : node.Fits source) (small : byteSize source < UInt32.size) :
    ∃ after, textFrom source (node.position source) = some (node.text source ++ after) := by
  obtain ⟨before, after, same, start, _⟩ := fits.exists_parts
  refine ⟨after, ?_⟩
  rw [same] at small
  have read := Text.textFrom_position small
  rwa [← same, start, ← fits.position_eq] at read

end SyntaxNode

end ScriptAudit
