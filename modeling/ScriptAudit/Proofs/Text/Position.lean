import ScriptAudit.Proofs.Text.LineIndex

namespace ScriptAudit.Text

def Position.Before (p q : Position) : Prop := p.line < q.line ∨ p.line = q.line ∧ p.column < q.column

namespace LineIndex

-- A position of what follows a beginning of a text, from which the beginning's size can be told.
structure PlacedBehind (text before : List Char) (place : Position) : Prop where
  line : place.line.toNat = before.count '\n'
  column : place.column.toNat = (afterLast '\n' before).length
  recovered : ∃ line, (text.splitOn '\n')[place.line.toNat]? = some line ∧
    byteSize before = (ofText text).startOf place.line.toNat + byteSize (line.take place.column.toNat)

section

variable {text : List Char} (small : byteSize text < UInt32.size)

include small

theorem line_position (offset : Nat) :
    ((ofText text).position offset).line.toNat = (ofText text).lineOf offset := by
  have listed := (isLineOf_lineOf text offset).listed
  have lines := text.count_le_length (a := '\n')
  have bytes := length_le_byteSize text
  rw [lineCount_ofText, length_splitOn] at listed
  exact UInt32.toNat_ofNat_of_lt' (by omega)

theorem position_boundary {before after : List Char} (split : text = before ++ after) :
    PlacedBehind text before ((ofText text).position (byteSize before)) := by
  have lines : before.count '\n' ≤ before.length := List.count_le_length
  have columns : (afterLast '\n' before).length ≤ before.length := (afterLast_isSuffix '\n' before).length_le
  have bytes := length_le_byteSize before
  subst split
  rw [byteSize_append] at small
  obtain ⟨front, rest, here, opened, number⟩ := isLine_of_append before after
  have line : (UInt32.ofNat (before.count '\n')).toNat = before.count '\n' := UInt32.toNat_ofNat_of_lt' (by omega)
  have column : (UInt32.ofNat (afterLast '\n' before).length).toNat = (afterLast '\n' before).length :=
    UInt32.toNat_ofNat_of_lt' (by omega)
  rw [position_append]
  refine ⟨line, column, _, line.symm ▸ number ▸ here.getElem?_splitOn, ?_⟩
  rw [line, column, ← number, startOf_line here, List.take_left]
  conv_lhs => rw [opened, byteSize_append]

theorem position_before {x y : Nat} (here : IsBoundary text x) (there : IsBoundary text y) (less : x < y) :
    ((ofText text).position x).Before ((ofText text).position y) := by
  obtain ⟨before, after, split, rfl⟩ := here
  obtain ⟨longer, rest, split', rfl⟩ := there
  obtain ⟨part, rfl, -⟩ := exists_append_of_byteSize_le (split.symm.trans split') less.le
  have first := position_boundary small split
  have second := position_boundary small split'
  by_cases ended : '\n' ∈ part
  · have more : 0 < part.count '\n' := List.count_pos_iff.mpr ended
    refine .inl (UInt32.lt_iff_toNat_lt.mpr ?_)
    rw [first.line, second.line, List.count_append]
    omega
  · have visible : 0 < part.length := by
      refine List.length_pos_iff.mpr ?_
      rintro rfl
      rw [List.append_nil] at less
      exact Nat.lt_irrefl _ less
    refine .inr ⟨UInt32.toNat_inj.mp ?_, UInt32.lt_iff_toNat_lt.mpr ?_⟩
    · rw [first.line, second.line, List.count_append, List.count_eq_zero_of_not_mem ended, Nat.add_zero]
    · rw [first.column, second.column, afterLast_append before ended, List.length_append]
      omega

theorem column_elsewhere {offset : Nat} (elsewhere : ¬ IsBoundary text offset) :
    ((ofText text).position offset).column.toNat =
      (offset - (ofText text).startOf ((ofText text).position offset).line.toNat) % UInt32.size := by
  rw [line_position small, position]
  simp only [ofText, slice_eq_none elsewhere, UInt32.toNat_ofNat']

end

-- Every offset has a position, whether or not it is a boundary of the text.
theorem position_exact (text : List Char) (small : byteSize text < UInt32.size) :
    (∀ before after, text = before ++ after →
      PlacedBehind text before ((ofText text).position (byteSize before))) ∧
    (∀ x y, IsBoundary text x → IsBoundary text y → x < y →
      ((ofText text).position x).Before ((ofText text).position y)) ∧
    (∀ offset, ¬ IsBoundary text offset →
      ((ofText text).position offset).column.toNat =
        (offset - (ofText text).startOf ((ofText text).position offset).line.toNat) % UInt32.size) ∧
    ∀ offset, (ofText text).IsLineOf offset ((ofText text).position offset).line.toNat ∧
      ∀ answer, Located (ofText text).starts offset answer →
        answer = .ok ((ofText text).position offset).line.toNat ∨
          answer = .error (((ofText text).position offset).line.toNat + 1) := by
  refine ⟨?_, ?_, ?_, ?_⟩
  · intro before after split
    exact position_boundary small split
  · intro x y here there less
    exact position_before small here there less
  · intro offset elsewhere
    exact column_elsewhere small elsewhere
  · intro offset
    rw [line_position small]
    refine ⟨isLineOf_lineOf text offset, fun answer located => ?_⟩
    have answered := (located_iff text offset answer).mp located
    split at answered
    · exact .inl answered
    · exact .inr answered

def accented : List Char := ['a', '\r', '\n', 'é', ' ', 'x']

theorem position_exact_accented :
    byteSize accented < UInt32.size ∧
    (accented = ['a', '\r', '\n', 'é', ' '] ++ ['x'] ∧ (ofText accented).position 6 = ⟨1, 2⟩ ∧
      PlacedBehind accented ['a', '\r', '\n', 'é', ' '] ((ofText accented).position 6)) ∧
    (IsBoundary accented 2 ∧ IsBoundary accented 6 ∧ 2 < 6 ∧
      ((ofText accented).position 2).Before ((ofText accented).position 6)) ∧
    (¬ IsBoundary accented 4 ∧ (ofText accented).position 4 = ⟨1, 1⟩ ∧
      ((ofText accented).position 4).column.toNat =
        (4 - (ofText accented).startOf ((ofText accented).position 4).line.toNat) % UInt32.size) ∧
    (ofText accented).IsLineOf 4 ((ofText accented).position 4).line.toNat ∧
    Located (ofText accented).starts 4 (.error 2) ∧
    ((.error 2 : Except Nat Nat) = .ok ((ofText accented).position 4).line.toNat ∨
      (.error 2 : Except Nat Nat) = .error (((ofText accented).position 4).line.toNat + 1)) := by
  have small : byteSize accented < UInt32.size := by decide
  obtain ⟨boundaries, ordered, elsewhere, lines⟩ := position_exact accented small
  have front : IsBoundary accented 2 := by decide
  have back : IsBoundary accented 6 := by decide
  have inside : ¬ IsBoundary accented 4 := by decide
  have missed : Located (ofText accented).starts 4 (.error 2) := (located_iff accented 4 _).mpr rfl
  exact ⟨small, ⟨rfl, by decide +kernel, boundaries ['a', '\r', '\n', 'é', ' '] ['x'] rfl⟩,
    ⟨front, back, by decide, ordered 2 6 front back (by decide)⟩, ⟨inside, by decide +kernel, elsewhere 4 inside⟩,
    (lines 4).1, missed, (lines 4).2 _ missed⟩

-- A column is a 32-bit number, and an offset may lie farther behind the start of the last line than that.
theorem column_wraps :
    byteSize [] < UInt32.size ∧ ¬ IsBoundary [] 4294967296 ∧ (ofText []).position 4294967296 = ⟨0, 0⟩ ∧
    ((ofText []).position 4294967296).column.toNat ≠
      4294967296 - (ofText []).startOf ((ofText []).position 4294967296).line.toNat := by
  decide +kernel

end LineIndex

-- The text from a position on, if there is such a line and it reaches that column.
def textFrom (text : List Char) (place : Position) : Option (List Char) := do
  let line ← (text.splitOn '\n')[place.line.toNat]?
  if place.column.toNat ≤ line.length then
    (['\n'].intercalate ((text.splitOn '\n').drop place.line.toNat)).drop place.column.toNat
  else none

theorem textFrom_position {before after : List Char} (small : byteSize (before ++ after) < UInt32.size) :
    textFrom (before ++ after) ((LineIndex.ofText (before ++ after)).position (byteSize before)) = some after := by
  have place := LineIndex.position_boundary small rfl
  obtain ⟨front, rest, here, opened, number⟩ := isLine_of_append before after
  have listed : ((before ++ after).splitOn '\n')[before.count '\n']? =
      some (afterLast '\n' before ++ beforeFirst '\n' after) := number ▸ here.getElem?_splitOn
  have regrouped : before ++ after = front ++ (afterLast '\n' before ++ after) := by
    conv_lhs => rw [opened, List.append_assoc]
  have remaining : ((before ++ after).splitOn '\n').drop (before.count '\n') =
      (afterLast '\n' before ++ after).splitOn '\n' := by
    rw [regrouped, ← number, drop_splitOn here.whole]
  rw [textFrom, place.line, place.column, listed]
  simp [remaining, List.intercalate_splitOn]

end ScriptAudit.Text
