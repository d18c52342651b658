import Mathlib.Data.List.Chain
import ScriptAudit.Proofs.Text.Bytes
import ScriptAudit.Text.Occurrence

namespace ScriptAudit.Text

theorem occurs_iff_infix {term text : List Char} : occurs term text = true ↔ term <:+: text := by
  induction text with
  | nil => rw [occurs, List.isEmpty_iff, List.infix_nil]
  | cons c rest ih => rw [occurs, Bool.or_eq_true, List.isPrefixOf_iff_prefix, ih, List.infix_cons_iff]

theorem contains_iff_infix {text term : String} : contains text term = true ↔ term.toList <:+: text.toList :=
  occurs_iff_infix

def OccursAt (term text : List Char) (offset : Nat) : Prop :=
  ∃ before after : ByteArray, text.utf8Encode = before ++ (term.utf8Encode ++ after) ∧ before.size = offset

theorem occursAt_append (before term after : List Char) :
    OccursAt term (before ++ (term ++ after)) (byteSize before) := by
  refine ⟨before.utf8Encode, after.utf8Encode, ?_, size_utf8Encode before⟩
  rw [List.utf8Encode_append, List.utf8Encode_append]

theorem isUTF8FirstByte_utf8Encode {c : Char} {text : List Char} {later : ByteArray}
    (inside : 0 < (List.utf8Encode (c :: text) ++ later).size) :
    (List.utf8Encode (c :: text) ++ later)[0].IsUTF8FirstByte := by
  have first : 0 < [c].utf8Encode.size := by
    rw [size_utf8Encode]
    exact c.utf8Size_pos
  have same : (List.utf8Encode (c :: text) ++ later)[0] = [c].utf8Encode[0] := by
    simp only [List.utf8Encode_cons (l := text), ByteArray.append_assoc]
    exact ByteArray.getElem_append_left first
  rw [same]
  exact List.isUTF8FirstByte_getElem_utf8Encode_singleton.mpr rfl

-- No byte inside a character is the first one of another, so what reads as the term is the term.
theorem OccursAt.exists_append {term text : List Char} {offset : Nat} (here : OccursAt term text offset)
    (nonempty : term ≠ []) : ∃ before after, text = before ++ (term ++ after) ∧ byteSize before = offset := by
  obtain ⟨front, back, bytes, rfl⟩ := here
  obtain ⟨c, rest, rfl⟩ := List.exists_cons_of_ne_nil nonempty
  have visible : 0 < (List.utf8Encode (c :: rest) ++ back).size := by
    have := byteSize_pos nonempty
    rw [ByteArray.size_append, size_utf8Encode]
    omega
  have encoded : (String.ofList text).toByteArray = front ++ (List.utf8Encode (c :: rest) ++ back) := by
    rw [String.toByteArray_ofList, bytes]
  have inside : (⟨front.size⟩ : String.Pos.Raw) < (String.ofList text).rawEndPos := by
    rw [String.Pos.Raw.lt_iff, String.byteIdx_rawEndPos, ← String.size_toByteArray, encoded, ByteArray.size_append]
    exact Nat.lt_add_of_pos_right visible
  have begins : ((String.ofList text).getUTF8Byte ⟨front.size⟩ inside).IsUTF8FirstByte := by
    have same : (String.ofList text).getUTF8Byte ⟨front.size⟩ inside = (List.utf8Encode (c :: rest) ++ back)[0] := by
      simp only [String.getUTF8Byte, encoded]
      rw [ByteArray.getElem_append_right (Nat.le_refl _)]
      simp
    rw [same]
    exact isUTF8FirstByte_utf8Encode visible
  have valid := String.Pos.Raw.isValid_iff_isUTF8FirstByte.mpr (.inr ⟨inside, begins⟩)
  obtain ⟨before, after, same, split⟩ := valid.exists
  rw [encoded, ByteArray.extract_append_eq_left rfl] at same
  cases String.ofList_injective split
  rw [List.utf8Encode_append, same, ByteArray.append_right_inj] at bytes
  obtain ⟨later, rfl⟩ := List.isPrefix_of_utf8Encode_append_eq_utf8Encode back bytes.symm
  exact ⟨before, later, rfl, by rw [← size_utf8Encode, same]⟩

-- The offsets of the leftmost occurrences that do not overlap: whatever else occurs begins inside one of them.
structure Leftmost (term text : List Char) (offsets : List Nat) : Prop where
  occurs : ∀ offset ∈ offsets, OccursAt term text offset
  increasing : offsets.Pairwise (· < ·)
  apart : offsets.IsChain fun offset next => offset + byteSize term ≤ next
  before : ∀ first ∈ offsets.head?, ∀ p < first, ¬ OccursAt term text p
  between : offsets.IsChain fun offset next => ∀ p, offset + byteSize term ≤ p → p < next → ¬ OccursAt term text p
  behind : ∀ last ∈ offsets.getLast?, ∀ p, last + byteSize term ≤ p → ¬ OccursAt term text p
  absent : offsets = [] → ∀ p, ¬ OccursAt term text p

-- What a search takes from an offset on: the first occurrence, and then what a search takes from its end on.
inductive Takes (term text : List Char) : Nat → List Nat → Prop where
  | none {start : Nat} (absent : ∀ p, start ≤ p → ¬ OccursAt term text p) : Takes term text start []
  | next {start offset : Nat} {later : List Nat} (reached : start ≤ offset) (here : OccursAt term text offset)
      (first : ∀ p, start ≤ p → p < offset → ¬ OccursAt term text p)
      (rest : Takes term text (offset + byteSize term) later) : Takes term text start (offset :: later)

section

variable {term text : List Char} {start : Nat} {offsets : List Nat}

theorem Takes.from_earlier {earlier : Nat} (taken : Takes term text start offsets) (less : earlier ≤ start)
    (free : ∀ p, earlier ≤ p → p < start → ¬ OccursAt term text p) : Takes term text earlier offsets := by
  cases taken with
  | none absent =>
    refine .none fun p reached => ?_
    rcases Nat.lt_or_ge p start with front | back
    · exact free p reached front
    · exact absent p back
  | next reached here first rest =>
    refine .next (Nat.le_trans less reached) here (fun p from_earlier until_here => ?_) rest
    rcases Nat.lt_or_ge p start with front | back
    · exact free p from_earlier front
    · exact first p back until_here

theorem Takes.unique {others : List Nat} (taken : Takes term text start offsets)
    (also : Takes term text start others) : offsets = others := by
  induction taken generalizing others with
  | none absent =>
    cases also with
    | none => rfl
    | next reached here => exact absurd here (absent _ reached)
  | next reached here first rest ih =>
    cases also with
    | none absent => exact absurd here (absent _ reached)
    | next reached' here' first' rest' =>
      rename_i offset later offset' later'
      have same : offset = offset' := by
        rcases Nat.lt_trichotomy offset offset' with less | same | less
        · exact absurd here (first' offset reached less)
        · exact same
        · exact absurd here' (first offset' reached' less)
      subst same
      rw [ih rest']

theorem Takes.occurs (taken : Takes term text start offsets) : ∀ offset ∈ offsets, OccursAt term text offset := by
  induction taken with
  | none => simp
  | next reached here first rest ih => exact List.forall_mem_cons.mpr ⟨here, ih⟩

theorem Takes.apart (taken : Takes term text start offsets) :
    offsets.IsChain fun offset next => offset + byteSize term ≤ next := by
  induction taken with
  | none => exact .nil
  | next reached here first rest ih =>
    cases rest with
    | none => exact .singleton _
    | next near => exact .cons_cons near ih

theorem Takes.between (taken : Takes term text start offsets) :
    offsets.IsChain fun offset next => ∀ p, offset + byteSize term ≤ p → p < next → ¬ OccursAt term text p := by
  induction taken with
  | none => exact .nil
  | next reached here first rest ih =>
    cases rest with
    | none => exact .singleton _
    | next _ _ free => exact .cons_cons free ih

theorem Takes.behind (taken : Takes term text start offsets) :
    ∀ last ∈ offsets.getLast?, ∀ p, last + byteSize term ≤ p → ¬ OccursAt term text p := by
  induction taken with
  | none => simp
  | next reached here first rest ih =>
    cases rest with
    | none absent =>
      rintro _ ⟨⟩
      exact absent
    | next => exact ih

theorem Takes.leftmost (nonempty : term ≠ []) (taken : Takes term text 0 offsets) : Leftmost term text offsets := by
  refine ⟨taken.occurs, ?_, taken.apart, ?_, taken.between, taken.behind, ?_⟩
  · refine List.isChain_iff_pairwise.mp (taken.apart.imp fun offset next far => ?_)
    exact Nat.lt_of_lt_of_le (Nat.lt_add_of_pos_right (byteSize_pos nonempty)) far
  · cases taken with
    | none => simp
    | next reached here first rest =>
      rintro _ ⟨⟩ p less
      exact first p (Nat.zero_le p) less
  · rintro rfl p
    cases taken with
    | none absent => exact absent p (Nat.zero_le p)

theorem takes_of_isChain {offset : Nat} {later : List Nat} (occurs : ∀ next ∈ later, OccursAt term text next)
    (apart : (offset :: later).IsChain fun offset next => offset + byteSize term ≤ next)
    (between : (offset :: later).IsChain fun offset next =>
      ∀ p, offset + byteSize term ≤ p → p < next → ¬ OccursAt term text p)
    (behind : ∀ last ∈ (offset :: later).getLast?, ∀ p, last + byteSize term ≤ p → ¬ OccursAt term text p) :
    Takes term text (offset + byteSize term) later := by
  induction later generalizing offset with
  | nil => exact .none (behind offset rfl)
  | cons next rest ih =>
    obtain ⟨far, apart⟩ := List.isChain_cons_cons.mp apart
    obtain ⟨free, between⟩ := List.isChain_cons_cons.mp between
    obtain ⟨here, occurs⟩ := List.forall_mem_cons.mp occurs
    exact .next far here free (ih occurs apart between behind)

theorem Leftmost.takes (leftmost : Leftmost term text offsets) : Takes term text 0 offsets := by
  cases offsets with
  | nil => exact .none fun p _ => leftmost.absent rfl p
  | cons offset later =>
    obtain ⟨here, occurs⟩ := List.forall_mem_cons.mp leftmost.occurs
    exact .next (Nat.zero_le _) here (fun p _ less => leftmost.before offset rfl p less)
      (takes_of_isChain occurs leftmost.apart leftmost.between leftmost.behind)

theorem occurrencesFrom_append (term passed rest : List Char) (offset : Nat) :
    occurrencesFrom term passed.length offset (passed ++ rest) =
      occurrencesFrom term 0 (offset + byteSize passed) rest := by
  induction passed generalizing offset with
  | nil => rfl
  | cons c more ih => rw [List.length_cons, List.cons_append, occurrencesFrom, ih, byteSize_cons, Nat.add_assoc]

theorem occurrencesFrom_term_append (nonempty : term ≠ []) (offset : Nat) (rest : List Char) :
    occurrencesFrom term 0 offset (term ++ rest) = offset :: occurrencesFrom term 0 (offset + byteSize term) rest := by
  obtain ⟨c, more, rfl⟩ := List.exists_cons_of_ne_nil nonempty
  have found : (c :: more).isPrefixOf (c :: (more ++ rest)) = true :=
    List.isPrefixOf_iff_prefix.mpr (List.prefix_append (c :: more) rest)
  rw [List.cons_append, occurrencesFrom, if_pos found, List.length_cons, Nat.add_sub_cancel, occurrencesFrom_append,
    byteSize_cons, Nat.add_assoc]

theorem occurrencesFrom_cons {c : Char} {rest : List Char} (elsewhere : ¬ term <+: c :: rest) (offset : Nat) :
    occurrencesFrom term 0 offset (c :: rest) = occurrencesFrom term 0 (offset + c.utf8Size) rest := by
  rw [occurrencesFrom, if_neg (fun found => elsewhere (List.isPrefixOf_iff_prefix.mp found))]

theorem OccursAt.lt_byteSize {p : Nat} (here : OccursAt term text p) (nonempty : term ≠ []) : p < byteSize text := by
  obtain ⟨before, after, rfl, rfl⟩ := here.exists_append nonempty
  have := byteSize_pos nonempty
  rw [byteSize_append, byteSize_append]
  omega

theorem OccursAt.past {before rest : List Char} {c : Char} {p : Nat} (here : OccursAt term (before ++ c :: rest) p)
    (nonempty : term ≠ []) (elsewhere : ¬ term <+: c :: rest) (reached : byteSize before ≤ p) :
    byteSize before + c.utf8Size ≤ p := by
  obtain ⟨front, back, same, rfl⟩ := here.exists_append nonempty
  obtain ⟨part, rfl, rest_eq⟩ := exists_append_of_byteSize_le same reached
  cases part with
  | nil => exact absurd ⟨back, rest_eq.symm⟩ elsewhere
  | cons d more =>
    obtain ⟨rfl, _⟩ := List.cons.inj rest_eq
    rw [byteSize_append, byteSize_cons]
    omega

theorem takes_occurrencesFrom (nonempty : term ≠ []) (before after : List Char) :
    Takes term (before ++ after) (byteSize before) (occurrencesFrom term 0 (byteSize before) after) := by
  by_cases here : term <+: after
  · obtain ⟨rest, rfl⟩ := here
    have shorter : rest.length < (term ++ rest).length := by
      have := List.length_pos_iff.mpr nonempty
      rw [List.length_append]
      omega
    have later := takes_occurrencesFrom nonempty (before ++ term) rest
    rw [byteSize_append, List.append_assoc] at later
    rw [occurrencesFrom_term_append nonempty]
    refine .next (Nat.le_refl _) (occursAt_append before term rest) (fun p reached less => ?_) later
    exact absurd less (Nat.not_lt.mpr reached)
  · cases after with
    | nil =>
      refine .none fun p reached found => ?_
      have inside := found.lt_byteSize nonempty
      rw [List.append_nil] at inside
      exact absurd inside (Nat.not_lt.mpr reached)
    | cons c rest =>
      have later := takes_occurrencesFrom nonempty (before ++ [c]) rest
      rw [byteSize_append, byteSize_cons, byteSize_nil, Nat.add_zero, List.append_assoc] at later
      rw [occurrencesFrom_cons here]
      refine later.from_earlier (Nat.le_add_right _ _) fun p reached less found => ?_
      exact absurd less (Nat.not_lt.mpr (found.past nonempty here reached))
termination_by after.length

theorem takes_occurrences (nonempty : term ≠ []) (text : List Char) : Takes term text 0 (occurrences term text) :=
  takes_occurrencesFrom nonempty [] text

theorem leftmost_iff (nonempty : term ≠ []) : Leftmost term text offsets ↔ occurrences term text = offsets := by
  constructor
  · intro leftmost
    exact (takes_occurrences nonempty text).unique leftmost.takes
  · rintro rfl
    exact (takes_occurrences nonempty text).leftmost nonempty

theorem exists_append_of_mem_occurrences {offset : Nat} (found : offset ∈ occurrences term text)
    (nonempty : term ≠ []) : ∃ before after, text = before ++ (term ++ after) ∧ byteSize before = offset :=
  ((takes_occurrences nonempty text).occurs offset found).exists_append nonempty

theorem occurrencesFrom_add (term : List Char) (pending offset shift : Nat) (text : List Char) :
    occurrencesFrom term pending (offset + shift) text =
      (occurrencesFrom term pending offset text).map (· + shift) := by
  fun_induction occurrencesFrom term pending offset text with
  | case1 => rfl
  | case2 offset c rest pending ih => rw [occurrencesFrom, Nat.add_right_comm, ih]
  | case3 offset c rest here ih => rw [occurrencesFrom, if_pos here, Nat.add_right_comm, ih, List.map_cons]
  | case4 offset c rest elsewhere ih => rw [occurrencesFrom, if_neg elsewhere, Nat.add_right_comm, ih]

theorem prefix_append_cons_iff {mark : Char} (unmarked : mark ∉ term) (a b : List Char) :
    term <+: a ++ mark :: b ↔ term <+: a := by
  constructor
  · intro found
    rcases List.prefix_or_prefix_of_prefix found (List.prefix_append a _) with within | beyond
    · exact within
    · obtain ⟨part, rfl⟩ := beyond
      cases part with
      | nil => simp
      | cons c more =>
        obtain ⟨rfl, _⟩ := List.cons_prefix_cons.mp (List.prefix_append_right_inj a |>.mp found)
        exact absurd (List.mem_append_right a List.mem_cons_self) unmarked
  · intro within
    exact within.trans (List.prefix_append a _)

-- No occurrence reaches over a mark that the term does not have, so a search up to the mark has nothing left to pass.
theorem occurrencesFrom_append_cons {mark : Char} (nonempty : term ≠ []) (unmarked : mark ∉ term) (a b : List Char)
    {pending : Nat} (offset : Nat) (within : pending ≤ a.length) :
    occurrencesFrom term pending offset (a ++ mark :: b) =
      occurrencesFrom term pending offset a ++ occurrencesFrom term 0 (offset + byteSize a + mark.utf8Size) b := by
  induction a generalizing pending offset with
  | nil =>
    obtain rfl : pending = 0 := Nat.le_zero.mp within
    have elsewhere : ¬ term <+: mark :: b := by
      intro found
      exact nonempty (List.prefix_nil.mp ((prefix_append_cons_iff unmarked [] b).mp found))
    rw [List.nil_append, occurrencesFrom_cons elsewhere]
    rfl
  | cons c rest ih =>
    have sizes : offset + byteSize (c :: rest) = offset + c.utf8Size + byteSize rest := (Nat.add_assoc ..).symm
    rw [List.cons_append, sizes]
    cases pending with
    | succ pending => rw [occurrencesFrom, occurrencesFrom, ih _ (Nat.le_of_succ_le_succ within)]
    | zero =>
      have same : term.isPrefixOf (c :: (rest ++ mark :: b)) = term.isPrefixOf (c :: rest) := by
        rw [Bool.eq_iff_iff, List.isPrefixOf_iff_prefix, List.isPrefixOf_iff_prefix]
        exact prefix_append_cons_iff unmarked (c :: rest) b
      rw [occurrencesFrom, occurrencesFrom, same]
      split
      next here =>
        have fits := (List.isPrefixOf_iff_prefix.mp here).length_le
        rw [List.length_cons] at fits
        rw [ih _ (by omega), List.cons_append]
      next => exact ih _ (Nat.zero_le _)

theorem occurrences_append_cons {mark : Char} (nonempty : term ≠ []) (unmarked : mark ∉ term) (a b : List Char) :
    occurrences term (a ++ mark :: b) =
      occurrences term a ++ (occurrences term b).map (· + (byteSize a + mark.utf8Size)) := by
  rw [occurrences, occurrencesFrom_append_cons nonempty unmarked a b 0 (Nat.zero_le _), Nat.add_assoc,
    occurrencesFrom_add]
  rfl

end

end ScriptAudit.Text
