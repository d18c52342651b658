import Mathlib.Data.List.DropRight
import ScriptAudit.Text.Pieces

namespace ScriptAudit.Text

theorem forall_bne_of_not_mem {mark : Char} {text : List Char} (absent : mark ∉ text) :
    ∀ c ∈ text, (c != mark) = true := by
  intro c present
  have other : c ≠ mark := fun same => absent (same ▸ present)
  simpa using other

theorem not_mem_beforeFirst (mark : Char) (text : List Char) : mark ∉ beforeFirst mark text := by
  intro found
  simpa using List.mem_takeWhile_imp found

theorem beforeFirst_eq_self {mark : Char} {text : List Char} (absent : mark ∉ text) :
    beforeFirst mark text = text :=
  List.takeWhile_eq_self_iff.mpr (forall_bne_of_not_mem absent)

theorem beforeFirst_append {mark : Char} {a : List Char} (absent : mark ∉ a) (b : List Char) :
    beforeFirst mark (a ++ b) = a ++ beforeFirst mark b :=
  List.takeWhile_append_of_pos (forall_bne_of_not_mem absent)

theorem exists_rest_beforeFirst (mark : Char) (text : List Char) :
    ∃ rest, text = beforeFirst mark text ++ rest ∧ (rest = [] ∨ ∃ later, rest = mark :: later) := by
  refine ⟨text.dropWhile (· != mark), List.takeWhile_append_dropWhile.symm, ?_⟩
  cases cut : text.dropWhile (· != mark) with
  | nil => exact .inl rfl
  | cons c later =>
    have first := List.head_dropWhile_not (· != mark) (l := text) (by simp [cut])
    simp only [cut, List.head_cons, bne_eq_false_iff_eq] at first
    exact .inr ⟨later, by rw [first]⟩

theorem afterLast_isSuffix (mark : Char) (text : List Char) : afterLast mark text <:+ text :=
  List.rtakeWhile_suffix _ _

theorem not_mem_afterLast (mark : Char) (text : List Char) : mark ∉ afterLast mark text := by
  intro found
  simpa using List.mem_rtakeWhile_imp found

theorem afterLast_eq_self {mark : Char} {text : List Char} (absent : mark ∉ text) :
    afterLast mark text = text :=
  List.rtakeWhile_eq_self_iff.mpr (forall_bne_of_not_mem absent)

theorem afterLast_append_cons (mark : Char) (a b : List Char) :
    afterLast mark (a ++ mark :: b) = afterLast mark b := by
  rw [afterLast, List.reverse_append, List.reverse_cons, List.append_assoc, List.takeWhile_append]
  split
  next whole =>
    have same := (List.takeWhile_prefix (· != mark)).eq_of_length whole
    simp [afterLast, same]
  next => rfl

theorem afterLast_append {mark : Char} (a : List Char) {b : List Char} (absent : mark ∉ b) :
    afterLast mark (a ++ b) = afterLast mark a ++ b := by
  have unmarked := forall_bne_of_not_mem (List.mem_reverse.not.mpr absent)
  rw [afterLast, List.reverse_append, List.takeWhile_append_of_pos unmarked, List.reverse_append, List.reverse_reverse,
    afterLast]

-- Two neighbouring marks read the same from both ends, so facts about the text before the first pair carry over to
-- the text after the last one.

theorem beforePair_isPrefix (mark : Char) (text : List Char) : beforePair mark text <+: text := by
  fun_induction beforePair mark text with
  | case1 => exact List.prefix_rfl
  | case2 c => exact List.prefix_rfl
  | case3 c d rest pair => exact List.nil_prefix
  | case4 c d rest apart ih => exact List.cons_prefix_cons.mpr ⟨rfl, ih⟩

theorem no_pair_in_beforePair (mark : Char) (text : List Char) : ¬ [mark, mark] <:+: beforePair mark text := by
  fun_induction beforePair mark text with
  | case1 => simp
  | case2 c =>
    intro found
    simpa using found.length_le
  | case3 c d rest pair => simp
  | case4 c d rest apart ih =>
    intro found
    rcases List.infix_cons_iff.mp found with front | deeper
    · obtain ⟨same, next⟩ := List.cons_prefix_cons.mp front
      have second := next.trans (beforePair_isPrefix mark (d :: rest))
      obtain ⟨same', _⟩ := List.cons_prefix_cons.mp second
      exact apart (by simp [← same, ← same'])
    · exact ih deeper

theorem beforePair_eq_self {mark : Char} {text : List Char} (absent : ¬ [mark, mark] <:+: text) :
    beforePair mark text = text := by
  fun_induction beforePair mark text with
  | case1 => rfl
  | case2 c => rfl
  | case3 c d rest pair =>
    obtain ⟨rfl, rfl⟩ : c = mark ∧ d = mark := by simpa using pair
    exact absurd ⟨[], rest, rfl⟩ absent
  | case4 c d rest apart ih =>
    have tail : ¬ [mark, mark] <:+: d :: rest := fun found => absent (found.trans (List.suffix_cons _ _).isInfix)
    rw [ih tail]

theorem pair_infix_reverse {mark : Char} {text : List Char} :
    [mark, mark] <:+: text.reverse ↔ [mark, mark] <:+: text := by
  rw [← List.reverse_infix, List.reverse_reverse]
  rfl

theorem afterLastPair_isSuffix (mark : Char) (text : List Char) : afterLastPair mark text <:+ text := by
  rw [← List.reverse_prefix, afterLastPair, List.reverse_reverse]
  exact beforePair_isPrefix mark text.reverse

theorem no_pair_in_afterLastPair (mark : Char) (text : List Char) :
    ¬ [mark, mark] <:+: afterLastPair mark text := by
  rw [afterLastPair, pair_infix_reverse]
  exact no_pair_in_beforePair mark text.reverse

theorem afterLastPair_eq_self {mark : Char} {text : List Char} (absent : ¬ [mark, mark] <:+: text) :
    afterLastPair mark text = text := by
  rw [afterLastPair, beforePair_eq_self (by rwa [pair_infix_reverse]), List.reverse_reverse]

theorem beforePair_append_pair {mark : Char} {a : List Char} (absent : mark ∉ a) (b : List Char) :
    beforePair mark (a ++ mark :: mark :: b) = a := by
  induction a with
  | nil => simp [beforePair]
  | cons c rest ih =>
    rw [List.mem_cons, not_or] at absent
    have apart : (c == mark) = false := by simpa using Ne.symm absent.1
    cases rest with
    | nil => simp [beforePair, apart]
    | cons d rest =>
      have tail := ih absent.2
      simp only [List.cons_append] at tail ⊢
      simp [beforePair, apart, tail]

theorem afterLastPair_append_pair {mark : Char} (a : List Char) {b : List Char} (absent : mark ∉ b) :
    afterLastPair mark (a ++ mark :: mark :: b) = b := by
  have turned : (a ++ mark :: mark :: b).reverse = b.reverse ++ mark :: mark :: a.reverse := by simp
  rw [afterLastPair, turned, beforePair_append_pair (List.mem_reverse.not.mpr absent), List.reverse_reverse]

theorem beforeNth_cons_of_ne {mark c : Char} (apart : c ≠ mark) (most : Nat) (rest : List Char) :
    beforeNth mark most (c :: rest) = c :: beforeNth mark most rest := by
  cases most <;> simp [beforeNth, apart]

theorem exists_rest_beforeNth (mark : Char) (most : Nat) (text : List Char) :
    ∃ rest, text = beforeNth mark most text ++ rest ∧ (rest = [] ∨ ∃ later, rest = mark :: later) := by
  fun_induction beforeNth mark most text with
  | case1 => exact ⟨[], rfl, .inl rfl⟩
  | case2 c rest here => exact ⟨c :: rest, rfl, .inr ⟨rest, by rw [eq_of_beq here]⟩⟩
  | case3 c rest apart ih | case4 _ c rest here ih | case5 _ c rest apart ih =>
    obtain ⟨left, same, ends⟩ := ih
    exact ⟨left, congrArg (c :: ·) same, ends⟩

theorem count_beforeNth_le (mark : Char) (most : Nat) (text : List Char) :
    (beforeNth mark most text).count mark ≤ most := by
  fun_induction beforeNth mark most text with
  | case1 => exact Nat.zero_le _
  | case2 c rest here => exact Nat.zero_le _
  | case4 most c rest here ih =>
    rw [List.count_cons, if_pos here]
    exact Nat.succ_le_succ ih
  | case3 c rest apart ih | case5 _ c rest apart ih =>
    rw [List.count_cons, if_neg apart]
    exact ih

theorem beforeNth_append {mark : Char} {most : Nat} {front : List Char} (few : front.count mark ≤ most)
    (rest : List Char) :
    beforeNth mark most (front ++ rest) = front ++ beforeNth mark (most - front.count mark) rest := by
  induction front generalizing most with
  | nil => rfl
  | cons c front ih =>
    by_cases here : c = mark
    · subst here
      rw [List.count_cons_self] at few ⊢
      obtain ⟨fewer, rfl⟩ := Nat.exists_eq_add_one_of_ne_zero (n := most) (by omega)
      rw [List.cons_append, beforeNth, if_pos (beq_self_eq_true c), ih (Nat.le_of_succ_le_succ few),
        Nat.add_sub_add_right]
      rfl
    · rw [List.count_cons_of_ne here] at few ⊢
      rw [List.cons_append, beforeNth_cons_of_ne here, ih few]
      rfl

structure IsLongestEnd (mark : Char) (most : Nat) (text part : List Char) : Prop where
  isSuffix : part <:+ text
  few : part.count mark ≤ most
  longest : ∀ other, other <:+ text → other.count mark ≤ most → other <:+ part

theorem IsLongestEnd.unique {mark : Char} {most : Nat} {text part other : List Char}
    (here : IsLongestEnd mark most text part) (also : IsLongestEnd mark most text other) : part = other := by
  have inside := also.longest part here.isSuffix here.few
  have around := here.longest other also.isSuffix also.few
  exact inside.eq_of_length_le around.length_le

theorem isLongestEnd_lastTwoSegments (mark : Char) (text : List Char) :
    IsLongestEnd mark 1 text (lastTwoSegments mark text) := by
  refine ⟨?_, ?_, ?_⟩
  · obtain ⟨rest, same, _⟩ := exists_rest_beforeNth mark 1 text.reverse
    rw [← List.reverse_prefix, lastTwoSegments, List.reverse_reverse]
    exact ⟨rest, same.symm⟩
  · rw [lastTwoSegments, List.count_reverse]
    exact count_beforeNth_le mark 1 text.reverse
  · intro other ends few
    obtain ⟨rest, same⟩ := List.reverse_prefix.mpr ends
    rw [← List.count_reverse] at few
    rw [← List.reverse_prefix, lastTwoSegments, List.reverse_reverse, ← same, beforeNth_append few]
    exact List.prefix_append _ _

theorem lastTwoSegments_eq_self {mark : Char} {text : List Char} (few : text.count mark ≤ 1) :
    lastTwoSegments mark text = text :=
  (isLongestEnd_lastTwoSegments mark text).unique ⟨List.suffix_refl _, few, fun _ ends _ => ends⟩

theorem exists_front_lastTwoSegments (mark : Char) (text : List Char) :
    ∃ front, text = front ++ lastTwoSegments mark text ∧ (front = [] ∨ ∃ earlier, front = earlier ++ [mark]) := by
  obtain ⟨rest, same, ends⟩ := exists_rest_beforeNth mark 1 text.reverse
  refine ⟨rest.reverse, ?_, ?_⟩
  · rw [lastTwoSegments, ← List.reverse_append, ← same, List.reverse_reverse]
  · rcases ends with rfl | ⟨later, rfl⟩
    · exact .inl rfl
    · exact .inr ⟨later.reverse, List.reverse_cons⟩

theorem pieces_append_cons {isSeparator : Char → Bool} {text : List Char} {mark : Char}
    (bare : ∀ c ∈ text, isSeparator c = false) (separates : isSeparator mark = true) (rest : List Char) :
    pieces isSeparator (text ++ mark :: rest) = text :: pieces isSeparator rest := by
  induction text with
  | nil => simp [pieces, separates]
  | cons c text ih =>
    obtain ⟨first, others⟩ := List.forall_mem_cons.mp bare
    simp [pieces, first, ih others]

theorem exists_first_piece {isSeparator keeps : Char → Bool} (apart : ∀ c, keeps c = true → isSeparator c = false)
    (text : List Char) : ∃ first others, pieces isSeparator text = first :: others ∧
      first.takeWhile keeps = text.takeWhile keeps := by
  induction text with
  | nil => exact ⟨[], [], rfl, rfl⟩
  | cons c rest ih =>
    obtain ⟨first, others, cut, same⟩ := ih
    cases separates : isSeparator c with
    | true =>
      have dropped : keeps c = false := by
        rw [Bool.eq_false_iff]
        intro kept
        rw [apart c kept] at separates
        cases separates
      exact ⟨[], first :: others, by simp [pieces, separates, cut], by simp [dropped]⟩
    | false =>
      refine ⟨c :: first, others, by simp [pieces, separates, cut], ?_⟩
      cases kept : keeps c <;> simp [kept, same]

theorem exists_first_separator {isSeparator : Char → Bool} {text : List Char} (some : 0 < text.countP isSeparator) :
    ∃ before mark after, text = before ++ mark :: after ∧ (∀ c ∈ before, isSeparator c = false) ∧
      isSeparator mark = true ∧ text.countP isSeparator = after.countP isSeparator + 1 := by
  induction text with
  | nil => cases some
  | cons c rest ih =>
    cases separates : isSeparator c with
    | true => exact ⟨[], c, rest, rfl, by simp, separates, List.countP_cons_of_pos separates⟩
    | false =>
      rw [List.countP_cons_of_neg (by simp [separates])] at some ⊢
      obtain ⟨before, mark, after, same, bare, marks, count⟩ := ih some
      refine ⟨c :: before, mark, after, by rw [same]; rfl, ?_, marks, count⟩
      exact List.forall_mem_cons.mpr ⟨separates, bare⟩

theorem takeWhile_append_of_stops {keeps : Char → Bool} (front : List Char) {back : List Char}
    (stops : ∀ c ∈ back.head?, keeps c = false) : (front ++ back).takeWhile keeps = front.takeWhile keeps := by
  have nothing : back.takeWhile keeps = [] := by
    cases back with
    | nil => rfl
    | cons c rest => exact List.takeWhile_cons_of_neg (by simp [stops c rfl])
  rw [List.takeWhile_append]
  split
  next whole =>
    rw [nothing, List.append_nil]
    exact ((List.takeWhile_prefix keeps).eq_of_length whole).symm
  next => rfl

end ScriptAudit.Text
