import ScriptAudit.Proofs.Split
import ScriptAudit.Proofs.Text.Pieces

namespace ScriptAudit.Text

-- Nothing, or lines that are ended by their line feeds.
def IsWhole (front : List Char) : Prop := front = [] ∨ ∃ earlier, front = earlier ++ ['\n']

def IsSetApart (rest : List Char) : Prop := rest = [] ∨ ∃ later, rest = '\n' :: later

-- A line in its place, between whole lines and what a line feed sets apart from it.
structure IsLine (text front line rest : List Char) : Prop where
  together : text = front ++ (line ++ rest)
  whole : IsWhole front
  bare : '\n' ∉ line
  ended : IsSetApart rest

theorem isWhole_flatMap (parts : List (List Char)) : IsWhole (parts.flatMap (· ++ ['\n'])) := by
  rcases List.eq_nil_or_concat' parts with rfl | ⟨earlier, last, rfl⟩
  · exact .inl rfl
  · refine .inr ⟨earlier.flatMap (· ++ ['\n']) ++ last, ?_⟩
    simp

theorem isSetApart_flatMap (parts : List (List Char)) : IsSetApart (parts.flatMap ('\n' :: ·)) := by
  cases parts with
  | nil => exact .inl rfl
  | cons part rest => exact .inr ⟨part ++ rest.flatMap ('\n' :: ·), rfl⟩

theorem splitOn_eq_cons {line rest : List Char} (bare : '\n' ∉ line) (ended : IsSetApart rest) :
    ∃ others, (line ++ rest).splitOn '\n' = line :: others := by
  rcases ended with rfl | ⟨later, rfl⟩
  · refine ⟨[], ?_⟩
    rw [List.append_nil, List.splitOn_eq_singleton bare]
  · exact ⟨_, List.splitOn_append_cons_self_of_not_mem bare later⟩

theorem drop_splitOn {front : List Char} (whole : IsWhole front) (rest : List Char) :
    ((front ++ rest).splitOn '\n').drop (front.count '\n') = rest.splitOn '\n' := by
  rcases whole with rfl | ⟨earlier, rfl⟩
  · rfl
  · have number : (earlier ++ ['\n']).count '\n' = (earlier.splitOn '\n').length := by
      rw [length_splitOn, List.count_append, List.count_singleton_self]
    rw [List.append_assoc, List.singleton_append, List.splitOn_append_cons_self, number, List.drop_left]

theorem IsLine.getElem?_splitOn {text front line rest : List Char} (here : IsLine text front line rest) :
    (text.splitOn '\n')[front.count '\n']? = some line := by
  obtain ⟨others, first⟩ := splitOn_eq_cons here.bare here.ended
  have lines := drop_splitOn here.whole (line ++ rest)
  rw [← here.together, first] at lines
  rw [← List.head?_drop, lines]
  rfl

theorem isLine_of_splitOn {text line : List Char} {earlier later : List (List Char)}
    (lines : text.splitOn '\n' = earlier ++ line :: later) :
    IsLine text (earlier.flatMap (· ++ ['\n'])) line (later.flatMap ('\n' :: ·)) where
  together := by rw [← List.append_assoc, ← intercalate_append_cons, ← lines, List.intercalate_splitOn]
  whole := isWhole_flatMap earlier
  bare := not_mem_of_mem_splitOn (lines ▸ List.mem_append_cons_self)
  ended := isSetApart_flatMap later

theorem count_front {text line : List Char} {earlier later : List (List Char)}
    (lines : text.splitOn '\n' = earlier ++ line :: later) :
    (earlier.flatMap (· ++ ['\n'])).count '\n' = earlier.length := by
  refine count_flatMap_append fun part member => ?_
  have listed : part ∈ text.splitOn '\n' := by
    rw [lines]
    exact List.mem_append_left _ member
  exact not_mem_of_mem_splitOn listed

theorem exists_isLine {text line : List Char} {number : Nat} (listed : (text.splitOn '\n')[number]? = some line) :
    ∃ front rest, IsLine text front line rest ∧ front.count '\n' = number := by
  obtain ⟨inside, rfl⟩ := List.getElem?_eq_some_iff.mp listed
  have lines : text.splitOn '\n' = (text.splitOn '\n').take number ++
      (text.splitOn '\n')[number] :: (text.splitOn '\n').drop (number + 1) := by
    rw [← List.drop_eq_getElem_cons inside, List.take_append_drop]
  refine ⟨_, _, isLine_of_splitOn lines, ?_⟩
  rw [count_front lines, List.length_take_of_le inside.le]

theorem exists_append_afterLast (text : List Char) : ∃ front, text = front ++ afterLast '\n' text ∧ IsWhole front := by
  refine ⟨text.rdropWhile (· != '\n'), List.rdropWhile_append_rtakeWhile.symm, ?_⟩
  rcases List.eq_nil_or_concat' (text.rdropWhile (· != '\n')) with empty | ⟨earlier, last, cut⟩
  · exact .inl empty
  · have mark := List.rdropWhile_last_not (· != '\n') text (by simp [cut])
    simp only [cut, List.getLast_append_singleton, bne_iff_ne, ne_eq, Decidable.not_not] at mark
    exact .inr ⟨earlier, by rw [cut, mark]⟩

theorem exists_beforeFirst_append (text : List Char) :
    ∃ rest, text = beforeFirst '\n' text ++ rest ∧ IsSetApart rest :=
  exists_rest_beforeFirst '\n' text

theorem isLine_of_append (before after : List Char) : ∃ front rest,
    IsLine (before ++ after) front (afterLast '\n' before ++ beforeFirst '\n' after) rest ∧
      before = front ++ afterLast '\n' before ∧ front.count '\n' = before.count '\n' := by
  obtain ⟨front, opened, whole⟩ := exists_append_afterLast before
  obtain ⟨rest, closed, ended⟩ := exists_beforeFirst_append after
  refine ⟨front, rest, ⟨?_, whole, ?_, ended⟩, opened, ?_⟩
  · conv_lhs => rw [opened, closed]
    simp
  · intro found
    rcases List.mem_append.mp found with inside | inside
    · exact not_mem_afterLast '\n' before inside
    · exact not_mem_beforeFirst '\n' after inside
  · conv_rhs => rw [opened]
    rw [List.count_append, List.count_eq_zero_of_not_mem (not_mem_afterLast '\n' before), Nat.add_zero]

end ScriptAudit.Text
