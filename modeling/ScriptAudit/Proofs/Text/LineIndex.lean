import ScriptAudit.Proofs.Text.Blank
import ScriptAudit.Proofs.Text.Bytes
import ScriptAudit.Proofs.Text.Lines
import ScriptAudit.Text.LineIndex

namespace ScriptAudit.Text.LineIndex

theorem startsAfter_append (offset : Nat) (before after : List Char) :
    startsAfter offset (before ++ after) =
      startsAfter offset before ++ startsAfter (offset + byteSize before) after := by
  induction before generalizing offset with
  | nil => rfl
  | cons c rest ih =>
    simp only [List.cons_append, startsAfter, ih, byteSize_cons, Nat.add_assoc]
    split <;> rfl

theorem length_startsAfter (offset : Nat) (text : List Char) : (startsAfter offset text).length = text.count '\n' := by
  induction text generalizing offset with
  | nil => rfl
  | cons c rest ih =>
    rw [startsAfter, List.count_cons]
    split
    next mark => rw [List.length_cons, ih]
    next other => rw [ih, Nat.add_zero]

theorem bounds_of_mem_startsAfter {offset start : Nat} {text : List Char} (member : start ∈ startsAfter offset text) :
    offset < start ∧ start ≤ offset + byteSize text := by
  induction text generalizing offset with
  | nil => cases member
  | cons c rest ih =>
    have := c.utf8Size_pos
    have later (inRest : start ∈ startsAfter (offset + c.utf8Size) rest) :
        offset < start ∧ start ≤ offset + byteSize (c :: rest) := by
      obtain ⟨behind, within⟩ := ih inRest
      rw [byteSize_cons]
      omega
    rw [startsAfter] at member
    split at member
    · rcases List.mem_cons.mp member with rfl | inRest
      · rw [byteSize_cons]
        omega
      · exact later inRest
    · exact later member

theorem increasing_startsAfter (offset : Nat) (text : List Char) :
    (offset :: startsAfter offset text).Pairwise (· < ·) := by
  induction text generalizing offset with
  | nil => exact List.pairwise_singleton _ _
  | cons c rest ih =>
    refine List.pairwise_cons.mpr ⟨fun start member => (bounds_of_mem_startsAfter member).1, ?_⟩
    rw [startsAfter]
    split
    · exact ih (offset + c.utf8Size)
    · exact (List.pairwise_cons.mp (ih (offset + c.utf8Size))).2

theorem trim_dropReturn (line : List Char) : trim (dropReturn line) = trim line := by
  rw [dropReturn]
  split
  next ends =>
    obtain ⟨earlier, rfl⟩ := List.getLast?_eq_some_iff.mp (beq_iff_eq.mp ends)
    rw [List.dropLast_concat]
    exact (trim_append_blank earlier rfl).symm
  next => rfl

section

variable (text : List Char)

theorem starts_append (before after : List Char) : (ofText (before ++ after)).starts =
    (0 :: startsAfter 0 before) ++ startsAfter (byteSize before) after := by
  rw [ofText, startsAfter_append, Nat.zero_add]
  rfl

theorem increasing_starts : (ofText text).starts.Pairwise (· < ·) := increasing_startsAfter 0 text

theorem lineCount_ofText : (ofText text).lineCount = (text.splitOn '\n').length := by
  rw [length_splitOn, lineCount, ofText, List.length_cons, length_startsAfter]

theorem startOf_eq {index : LineIndex} {line start : Nat} (listed : index.starts[line]? = some start) :
    index.startOf line = start := by
  rw [startOf, List.getD_eq_getElem?_getD, listed, Option.getD_some]

theorem getElem?_starts {index : LineIndex} {line : Nat} (listed : line < index.lineCount) :
    index.starts[line]? = some (index.startOf line) := by
  have found := List.getElem?_eq_getElem listed
  rw [found, startOf_eq found]

theorem startOf_lt {earlier later : Nat} (less : earlier < later) (listed : later < (ofText text).lineCount) :
    (ofText text).startOf earlier < (ofText text).startOf later := by
  have before := getElem?_starts (Nat.lt_trans less listed)
  have after := getElem?_starts listed
  obtain ⟨_, before⟩ := List.getElem?_eq_some_iff.mp before
  obtain ⟨_, after⟩ := List.getElem?_eq_some_iff.mp after
  rw [← before, ← after]
  exact List.pairwise_iff_getElem.mp (increasing_starts text) earlier later _ _ less

structure IsLineOf (index : LineIndex) (offset line : Nat) : Prop where
  listed : line < index.lineCount
  reached : index.startOf line ≤ offset
  last : ∀ later, line < later → later < index.lineCount → offset < index.startOf later

theorem IsLineOf.unique {index : LineIndex} {offset line other : Nat} (here : index.IsLineOf offset line)
    (also : index.IsLineOf offset other) : line = other := by
  rcases Nat.lt_trichotomy line other with less | same | less
  · exact absurd also.reached (Nat.not_le.mpr (here.last other less also.listed))
  · exact same
  · exact absurd here.reached (Nat.not_le.mpr (also.last line less here.listed))

theorem lt_of_mem_dropWhile {table : List Nat} {offset entry : Nat} (increasing : table.Pairwise (· < ·))
    (member : entry ∈ table.dropWhile (· ≤ offset)) : offset < entry := by
  induction table with
  | nil => cases member
  | cons first rest ih =>
    obtain ⟨later, increasing⟩ := List.pairwise_cons.mp increasing
    rw [List.dropWhile_cons] at member
    split at member
    · exact ih increasing member
    next past =>
      have first_past : offset < first := by simpa using past
      rcases List.mem_cons.mp member with rfl | inRest
      · exact first_past
      · exact Nat.lt_trans first_past (later entry inRest)

theorem isLineOf_lineOf (offset : Nat) : (ofText text).IsLineOf offset ((ofText text).lineOf offset) := by
  have parted := List.takeWhile_append_dropWhile (p := (· ≤ offset)) (l := (ofText text).starts)
  have reached (start : Nat) (member : start ∈ (ofText text).starts.takeWhile (· ≤ offset)) : start ≤ offset := by
    simpa using List.mem_takeWhile_imp member
  have first : 0 < ((ofText text).starts.takeWhile (· ≤ offset)).length := by simp [ofText]
  have line : (ofText text).lineOf offset < ((ofText text).starts.takeWhile (· ≤ offset)).length :=
    Nat.sub_lt first Nat.one_pos
  have listed : (ofText text).lineOf offset < (ofText text).lineCount := by
    rw [lineCount, ← parted, List.length_append]
    omega
  refine ⟨listed, ?_, ?_⟩
  · have found := getElem?_starts listed
    rw [← parted, List.getElem?_append_left line] at found
    exact reached _ (List.mem_of_getElem? found)
  · intro later less listed
    have found := getElem?_starts listed
    have behind : ((ofText text).starts.takeWhile (· ≤ offset)).length ≤ later := Nat.le_of_pred_lt less
    rw [← parted, List.getElem?_append_right behind] at found
    exact lt_of_mem_dropWhile (increasing_starts text) (List.mem_of_getElem? found)

-- What a binary search of an increasing table may answer: where a value is, or else where it would have to go.
inductive Located (table : List Nat) (value : Nat) : Except Nat Nat → Prop where
  | found {place : Nat} (here : table[place]? = some value) : Located table value (.ok place)
  | missing {next : Nat} (within : next ≤ table.length)
      (below : ∀ place entry, table[place]? = some entry → place < next → entry < value)
      (above : ∀ place entry, table[place]? = some entry → next ≤ place → value < entry) :
      Located table value (.error next)

-- A search that misses answers the place after the line, so there is one in front of that place.
theorem located_iff (offset : Nat) (answer : Except Nat Nat) : Located (ofText text).starts offset answer ↔
    answer = if (ofText text).startOf ((ofText text).lineOf offset) = offset then .ok ((ofText text).lineOf offset)
      else .error ((ofText text).lineOf offset + 1) := by
  have line := isLineOf_lineOf text offset
  generalize (ofText text).lineOf offset = number at line
  have own := getElem?_starts line.listed
  constructor
  · rintro (⟨here⟩ | ⟨within, below, above⟩)
    · rename_i place
      have exact_here : (ofText text).IsLineOf offset place := by
        have inside : place < (ofText text).lineCount := (List.getElem?_eq_some_iff.mp here).1
        refine ⟨inside, (startOf_eq here).le, fun later less listed => ?_⟩
        exact startOf_eq here ▸ startOf_lt text less listed
      rw [← exact_here.unique line, if_pos (startOf_eq here)]
    · rename_i next
      have passed : number < next := by
        refine Nat.lt_of_not_le fun past => ?_
        exact absurd line.reached (Nat.not_le.mpr (above number _ own past))
      have missed := below number _ own passed
      rw [if_neg missed.ne]
      have none_between : next = number + 1 := by
        refine Nat.le_antisymm (Nat.le_of_not_lt fun skipped => ?_) passed
        have listed : number + 1 < (ofText text).lineCount := Nat.lt_of_lt_of_le skipped within
        have early := below (number + 1) _ (getElem?_starts listed) skipped
        exact absurd early (Nat.lt_asymm (line.last (number + 1) (Nat.lt_succ_self number) listed))
      rw [none_between]
  · rintro rfl
    split
    next hit => exact .found (own.trans (congrArg some hit))
    next miss =>
      refine .missing line.listed (fun place entry here before => ?_) (fun place entry here behind => ?_)
      · have less : (ofText text).startOf number < offset := Nat.lt_of_le_of_ne line.reached miss
        rw [← startOf_eq here]
        rcases Nat.eq_or_lt_of_le (Nat.le_of_lt_succ before) with rfl | earlier
        · exact less
        · exact Nat.lt_trans (startOf_lt text earlier line.listed) less
      · rw [← startOf_eq here]
        exact line.last place behind (List.getElem?_eq_some_iff.mp here).1

theorem lineOf_append (before after : List Char) :
    (ofText (before ++ after)).lineOf (byteSize before) = before.count '\n' := by
  have reached : ∀ start ∈ 0 :: startsAfter 0 before, decide (start ≤ byteSize before) = true := by
    intro start member
    rcases List.mem_cons.mp member with rfl | behind
    · exact decide_eq_true (Nat.zero_le _)
    · have within := (bounds_of_mem_startsAfter behind).2
      rw [Nat.zero_add] at within
      exact decide_eq_true within
  have none_after : (startsAfter (byteSize before) after).takeWhile (· ≤ byteSize before) = [] := by
    cases later : startsAfter (byteSize before) after with
    | nil => rfl
    | cons start others =>
      have past := (bounds_of_mem_startsAfter (later ▸ List.mem_cons_self)).1
      exact List.takeWhile_cons_of_neg (by simpa using past)
  rw [lineOf, starts_append, List.takeWhile_append_of_pos reached, none_after, List.append_nil, List.length_cons,
    length_startsAfter, Nat.add_sub_cancel]

theorem getElem?_starts_of_whole {front : List Char} (whole : IsWhole front) (after : List Char) :
    (ofText (front ++ after)).starts[front.count '\n']? = some (byteSize front) := by
  rcases whole with rfl | ⟨earlier, rfl⟩
  · rfl
  · have ends : startsAfter 0 (earlier ++ ['\n']) = startsAfter 0 earlier ++ [byteSize (earlier ++ ['\n'])] := by
      rw [startsAfter_append, Nat.zero_add, byteSize_append]
      rfl
    have place : (earlier ++ ['\n']).count '\n' = (startsAfter 0 earlier).length + 1 := by
      rw [List.count_append, length_startsAfter, List.count_singleton_self]
    rw [starts_append, ends, place, List.cons_append, List.getElem?_cons_succ, List.append_assoc,
      List.getElem?_append_right (Nat.le_refl _), Nat.sub_self]
    rfl

variable {text} {front line rest : List Char}

theorem getElem?_starts_line (here : IsLine text front line rest) :
    (ofText text).starts[front.count '\n']? = some (byteSize front) := by
  rw [here.together]
  exact getElem?_starts_of_whole here.whole _

theorem startOf_line (here : IsLine text front line rest) :
    (ofText text).startOf (front.count '\n') = byteSize front :=
  startOf_eq (getElem?_starts_line here)

theorem slice_afterLast {before : List Char} (opened : before = front ++ afterLast '\n' before) (after : List Char) :
    slice (before ++ after) (byteSize front) (byteSize before) = some (afterLast '\n' before) := by
  have sliced := slice_append front (afterLast '\n' before) after
  rwa [← List.append_assoc, ← opened] at sliced

theorem position_append (before after : List Char) : (ofText (before ++ after)).position (byteSize before) =
    ⟨.ofNat (before.count '\n'), .ofNat (afterLast '\n' before).length⟩ := by
  obtain ⟨front, rest, here, opened, number⟩ := isLine_of_append before after
  have start := startOf_line here
  rw [position, lineOf_append, ← number, start]
  simp only [ofText, slice_afterLast opened]

theorem getElem?_starts_next (here : IsLine text front line rest) : (ofText text).starts[front.count '\n' + 1]? =
    if rest = [] then none else some (byteSize (front ++ line) + 1) := by
  have total : text.count '\n' = front.count '\n' + rest.count '\n' := by
    rw [here.together, List.count_append, List.count_append, List.count_eq_zero_of_not_mem here.bare, Nat.zero_add]
  rcases here.ended with rfl | ⟨later, rfl⟩
  · have beyond : (ofText text).starts.length ≤ front.count '\n' + 1 := by
      rw [← lineCount, lineCount_ofText, length_splitOn, total]
      exact Nat.le_refl _
    rw [if_pos rfl, List.getElem?_eq_none beyond]
  · have whole : IsWhole (front ++ line ++ ['\n']) := .inr ⟨front ++ line, rfl⟩
    have next := getElem?_starts_of_whole whole later
    have number : (front ++ line ++ ['\n']).count '\n' = front.count '\n' + 1 := by
      rw [List.count_append, List.count_append, List.count_eq_zero_of_not_mem here.bare, List.count_singleton_self,
        Nat.add_zero]
    have same : front ++ line ++ ['\n'] ++ later = text := by rw [here.together]; simp
    rw [same, number, byteSize_append] at next
    rw [if_neg (by simp), next]
    rfl

theorem lineText_line (here : IsLine text front line rest) :
    (ofText text).lineText (front.count '\n') = dropReturn line := by
  have cut : slice text (byteSize front) (byteSize (front ++ line)) = some line := by
    rw [here.together]
    exact slice_append front line rest
  rw [lineText, getElem?_starts_line here, getElem?_starts_next here]
  by_cases last : rest = []
  · have size : byteSize text = byteSize (front ++ line) := by rw [here.together, last, List.append_nil]
    simp only [last, if_true, ofText, size, cut, Option.getD_some]
  · simp only [last, if_false, Nat.add_sub_cancel, ofText, cut, Option.getD_some]

theorem lineText_beyond {number : Nat} (beyond : (ofText text).lineCount ≤ number) :
    (ofText text).lineText number = [] := by
  rw [lineText, List.getElem?_eq_none beyond]

theorem lineText_eq (text : List Char) (number : Nat) :
    (ofText text).lineText number = ((text.splitOn '\n')[number]?.map dropReturn).getD [] := by
  cases listed : (text.splitOn '\n')[number]? with
  | none =>
    refine lineText_beyond ?_
    rw [lineCount_ofText]
    exact List.getElem?_eq_none_iff.mp listed
  | some line =>
    obtain ⟨front, rest, here, rfl⟩ := exists_isLine listed
    exact lineText_line here

theorem trim_lineText (text : List Char) (number : Nat) :
    trim ((ofText text).lineText number) = trim ((text.splitOn '\n')[number]?.getD []) := by
  rw [lineText_eq]
  cases (text.splitOn '\n')[number]? with
  | none => rfl
  | some line => exact trim_dropReturn line

end

end ScriptAudit.Text.LineIndex
