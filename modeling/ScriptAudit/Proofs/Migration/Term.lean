import ScriptAudit.Migration.Scan
import ScriptAudit.Proofs.Text.Bytes
import ScriptAudit.Proofs.Text.Pieces

namespace ScriptAudit

open Text

-- The bytes of a call at which a term is cut out: from its start or the byte behind a dot, to its end or a parenthesis.
structure IsCutOut (api : List Char) (start stop : Nat) (term : List Char) : Prop where
  cut : slice api start stop = some term
  opened : start = 0 ∨ ∃ dot, start = dot + 1 ∧ slice api dot start = some ['.']
  closed : stop = byteSize api ∨ slice api stop (stop + 1) = some ['(']

theorem isLongestEnd_searchTerm (api : List Char) : IsLongestEnd '.' 1 (beforeFirst '(' api) (searchTerm api) :=
  isLongestEnd_lastTwoSegments '.' (beforeFirst '(' api)

theorem not_mem_searchTerm (api : List Char) : '(' ∉ searchTerm api := by
  intro found
  exact not_mem_beforeFirst '(' api ((isLongestEnd_searchTerm api).isSuffix.subset found)

theorem searchTerm_infix (api : List Char) : searchTerm api <:+: api :=
  (isLongestEnd_searchTerm api).isSuffix.isInfix.trans (List.takeWhile_prefix _).isInfix

theorem searchTerm_eq_self {term : List Char} (unopened : '(' ∉ term) (few : term.count '.' ≤ 1) :
    searchTerm term = term := by
  rw [searchTerm, beforeFirst_eq_self unopened, lastTwoSegments_eq_self few]

theorem slice_mark (mark : Char) (single : mark.utf8Size = 1) (before after : List Char) :
    slice (before ++ mark :: after) (byteSize before) (byteSize before + 1) = some [mark] := by
  have cut := slice_append before [mark] after
  rwa [byteSize_append, byteSize_cons, byteSize_nil, single] at cut

theorem exists_isCutOut (api : List Char) : ∃ start stop, IsCutOut api start stop (searchTerm api) := by
  obtain ⟨rest, whole, closed⟩ := exists_rest_beforeFirst '(' api
  obtain ⟨front, segments, opened⟩ := exists_front_lastTwoSegments '.' (beforeFirst '(' api)
  change beforeFirst '(' api = front ++ searchTerm api at segments
  have parts : api = front ++ (searchTerm api ++ rest) := by
    conv_lhs => rw [whole, segments, List.append_assoc]
  refine ⟨byteSize front, byteSize (front ++ searchTerm api), ?_, ?_, ?_⟩
  · have cut := slice_append front (searchTerm api) rest
    rwa [← parts] at cut
  · rcases opened with rfl | ⟨earlier, rfl⟩
    · exact .inl rfl
    · have dotted : byteSize (earlier ++ ['.']) = byteSize earlier + 1 := byteSize_append _ _
      have mark := slice_mark '.' rfl earlier (searchTerm api ++ rest)
      rw [List.append_assoc, List.singleton_append] at parts
      rw [dotted]
      rw [← parts] at mark
      exact .inr ⟨byteSize earlier, rfl, mark⟩
  · rw [← List.append_assoc] at parts
    rcases closed with rfl | ⟨later, rfl⟩
    · rw [List.append_nil] at parts
      exact .inl (congrArg byteSize parts.symm)
    · have mark := slice_mark '(' rfl (front ++ searchTerm api) later
      rw [← parts] at mark
      exact .inr mark

theorem searchTerm_keeps_tail (api : List Char) :
    (∃ front rest, api = front ++ rest ∧ '(' ∉ front ∧ (rest = [] ∨ ∃ later, rest = '(' :: later) ∧
      ∀ term, IsLongestEnd '.' 1 front term ↔ searchTerm api = term) ∧
    '(' ∉ searchTerm api ∧ (searchTerm api).count '.' ≤ 1 ∧ searchTerm api <:+: api ∧
    (∃ start stop, IsCutOut api start stop (searchTerm api)) ∧ searchTerm (searchTerm api) = searchTerm api := by
  have longest := isLongestEnd_searchTerm api
  have unopened := not_mem_searchTerm api
  obtain ⟨rest, whole, closed⟩ := exists_rest_beforeFirst '(' api
  refine ⟨⟨beforeFirst '(' api, rest, whole, not_mem_beforeFirst '(' api, closed, fun term => ⟨?_, ?_⟩⟩, unopened,
    longest.few, searchTerm_infix api, exists_isCutOut api, searchTerm_eq_self unopened longest.few⟩
  · intro ends
    exact longest.unique ends
  · rintro rfl
    exact longest

example : searchTerm "UnityEngine.Éclair..Find (deep)".toList = ".Find ".toList := by decide +kernel

end ScriptAudit
