import ScriptAudit.Proofs.Text.LineIndex

namespace ScriptAudit.Text.LineIndex

-- The carriage return at the end of a line, which the text of the line leaves out.
def returnOf (line : List Char) : List Char := if line.getLast? = some '\r' then ['\r'] else []

theorem dropReturn_append_returnOf (line : List Char) : dropReturn line ++ returnOf line = line := by
  unfold dropReturn returnOf
  by_cases ends : line.getLast? = some '\r'
  · obtain ⟨earlier, rfl⟩ := List.getLast?_eq_some_iff.mp ends
    simp
  · simp [ends]

theorem not_mem_dropReturn {line : List Char} (bare : '\n' ∉ line) : '\n' ∉ dropReturn line := by
  intro found
  rw [← dropReturn_append_returnOf line] at bare
  exact bare (List.mem_append_left _ found)

def bounds? (index : LineIndex) (line : Nat) : Option (Nat × Nat) :=
  index.starts[line]?.map fun start =>
    match index.starts[line + 1]? with
    | some next => (start, next - 1)
    | none => (start, byteSize index.text)

theorem lineText_eq_bounds (index : LineIndex) (line : Nat) : index.lineText line =
    match index.bounds? line with
    | some (start, stop) => dropReturn ((slice index.text start stop).getD [])
    | none => [] := by
  unfold lineText bounds?
  cases index.starts[line]? with
  | none => rfl
  | some start => cases index.starts[line + 1]? <;> rfl

-- Bounds at which a part of a text is cut out: in order, within the text and inside no character.
structure CutsOut (text : List Char) (bounds : Nat × Nat) (part : List Char) : Prop where
  ordered : bounds.1 ≤ bounds.2
  within : bounds.2 ≤ byteSize text
  start : IsBoundary text bounds.1
  stop : IsBoundary text bounds.2
  cut : slice text bounds.1 bounds.2 = some part

theorem cutsOut_append (before part after : List Char) :
    CutsOut (before ++ (part ++ after)) (byteSize before, byteSize (before ++ part)) part where
  ordered := by simp
  within := by simp
  start := ⟨before, part ++ after, rfl, rfl⟩
  stop := ⟨before ++ part, after, (List.append_assoc ..).symm, rfl⟩
  cut := slice_append before part after

theorem bounds?_line {text front line rest : List Char} (here : IsLine text front line rest) :
    (ofText text).bounds? (front.count '\n') = some (byteSize front, byteSize (front ++ line)) := by
  rw [bounds?, getElem?_starts_line here, getElem?_starts_next here]
  by_cases last : rest = []
  · have size : byteSize text = byteSize (front ++ line) := by rw [here.together, last, List.append_nil]
    simp [last, ofText, size]
  · simp [last]

theorem exists_bounds {text : List Char} {number : Nat} (listed : number < (ofText text).lineCount) :
    ∃ bounds line, (ofText text).bounds? number = some bounds ∧ (text.splitOn '\n')[number]? = some line ∧
      CutsOut text bounds line ∧ ∀ next ∈ (ofText text).starts[number + 1]?, next = bounds.2 + 1 := by
  rw [lineCount_ofText] at listed
  obtain ⟨front, rest, here, rfl⟩ := exists_isLine (List.getElem?_eq_getElem listed)
  refine ⟨_, _, bounds?_line here, here.getElem?_splitOn, ?_, ?_⟩
  · have cut := cutsOut_append front (text.splitOn '\n')[front.count '\n'] rest
    rwa [← here.together] at cut
  · intro next found
    rw [getElem?_starts_next here] at found
    split at found
    · cases found
    · exact (Option.some.inj found).symm

theorem not_mem_lineText (text : List Char) (number : Nat) : '\n' ∉ (ofText text).lineText number := by
  rw [lineText_eq]
  cases listed : (text.splitOn '\n')[number]? with
  | none => exact List.not_mem_nil
  | some line => exact not_mem_dropReturn (not_mem_of_mem_splitOn (List.mem_of_getElem? listed))

-- The lines with what is left out of them are the pieces between the line feeds.
theorem map_lineText (text : List Char) : ((List.range (ofText text).lineCount).map fun number =>
    (ofText text).lineText number ++ returnOf ((text.splitOn '\n').getD number [])) = text.splitOn '\n' := by
  refine List.ext_getElem (by simp [lineCount_ofText]) fun number _ listed => ?_
  rw [List.getElem_map, List.getElem_range, lineText_eq, List.getD_eq_getElem?_getD, List.getElem?_eq_getElem listed]
  exact dropReturn_append_returnOf _

theorem lines_reassemble (text : List Char) :
    (∀ number, '\n' ∉ (ofText text).lineText number) ∧
    (∀ number, (ofText text).lineCount ≤ number → (ofText text).lineText number = []) ∧
    ['\n'].intercalate ((List.range (ofText text).lineCount).map fun number =>
      (ofText text).lineText number ++ returnOf ((text.splitOn '\n').getD number [])) = text ∧
    (ofText text).lineCount = text.count '\n' + 1 ∧
    (ofText text).starts.head? = some 0 ∧ (ofText text).starts.Pairwise (· < ·) ∧
    ∀ number, number < (ofText text).lineCount → ∃ bounds line, (ofText text).bounds? number = some bounds ∧
      (text.splitOn '\n')[number]? = some line ∧ CutsOut text bounds line ∧
      (∀ next ∈ (ofText text).starts[number + 1]?, next = bounds.2 + 1) ∧
      (ofText text).lineText number = dropReturn line := by
  refine ⟨not_mem_lineText text, fun number => lineText_beyond, ?_, ?_, rfl, increasing_starts text, ?_⟩
  · rw [map_lineText, List.intercalate_splitOn]
  · rw [lineCount_ofText, length_splitOn]
  · intro number listed
    obtain ⟨bounds, line, bounded, piece, cut, next⟩ := exists_bounds listed
    refine ⟨bounds, line, bounded, piece, cut, next, ?_⟩
    have sliced : slice (ofText text).text bounds.1 bounds.2 = some line := cut.cut
    rw [lineText_eq_bounds, bounded]
    simp only [sliced, Option.getD_some]

def returned : List Char := ['é', '\r', '\r', '\n', '\n', 'x', '\r', '\n']

theorem lines_reassemble_returned :
    (ofText returned).lineCount = 4 ∧ (ofText returned).lineText 4 = [] ∧
    (ofText returned).lineText 0 = ['é', '\r'] ∧ 0 < (ofText returned).lineCount ∧
    (∃ bounds line, (ofText returned).bounds? 0 = some bounds ∧ (returned.splitOn '\n')[0]? = some line ∧
      CutsOut returned bounds line ∧ (∀ next ∈ (ofText returned).starts[0 + 1]?, next = bounds.2 + 1) ∧
      (ofText returned).lineText 0 = dropReturn line) := by
  have count : (ofText returned).lineCount = 4 := by decide
  have listed : 0 < (ofText returned).lineCount := by decide
  obtain ⟨_, beyond, _, _, _, _, bounded⟩ := lines_reassemble returned
  exact ⟨count, beyond 4 count.le, by decide +kernel, listed, bounded 0 listed⟩

end ScriptAudit.Text.LineIndex
