import ScriptAudit.Text.Bytes

namespace ScriptAudit.Text

@[simp]
theorem byteSize_nil : byteSize [] = 0 := rfl

@[simp]
theorem byteSize_cons (c : Char) (text : List Char) : byteSize (c :: text) = c.utf8Size + byteSize text := rfl

@[simp]
theorem byteSize_append (before after : List Char) : byteSize (before ++ after) = byteSize before + byteSize after := by
  induction before with
  | nil => simp
  | cons c rest ih => simp [ih, Nat.add_assoc]

theorem length_le_byteSize (text : List Char) : text.length ≤ byteSize text := by
  induction text with
  | nil => exact Nat.le_refl 0
  | cons c rest ih =>
    have := c.utf8Size_pos
    rw [List.length_cons, byteSize_cons]
    omega

theorem byteSize_pos {text : List Char} (nonempty : text ≠ []) : 0 < byteSize text :=
  Nat.lt_of_lt_of_le (List.length_pos_iff.mpr nonempty) (length_le_byteSize text)

theorem byteSize_eq_zero_iff {text : List Char} : byteSize text = 0 ↔ text = [] := by
  constructor
  · intro size
    have := length_le_byteSize text
    exact List.length_eq_zero_iff.mp (by omega)
  · rintro rfl
    rfl

theorem size_utf8Encode (text : List Char) : text.utf8Encode.size = byteSize text := by
  induction text with
  | nil => rfl
  | cons c rest ih =>
    rw [List.utf8Encode_cons, ByteArray.size_append, ih, List.utf8Encode_singleton, List.size_toByteArray,
      String.length_utf8EncodeChar, byteSize_cons]

theorem dropBytes_cons {count : Nat} {c : Char} (rest : List Char) (fits : c.utf8Size ≤ count) :
    dropBytes count (c :: rest) = dropBytes (count - c.utf8Size) rest := by
  have := c.utf8Size_pos
  obtain ⟨less, rfl⟩ := Nat.exists_eq_add_one_of_ne_zero (n := count) (by omega)
  rw [dropBytes, if_pos fits]

theorem takeBytes_cons {count : Nat} {c : Char} (rest : List Char) (fits : c.utf8Size ≤ count) :
    takeBytes count (c :: rest) = (takeBytes (count - c.utf8Size) rest).map (c :: ·) := by
  have := c.utf8Size_pos
  obtain ⟨less, rfl⟩ := Nat.exists_eq_add_one_of_ne_zero (n := count) (by omega)
  rw [takeBytes, if_pos fits]

theorem dropBytes_append (before after : List Char) : dropBytes (byteSize before) (before ++ after) = some after := by
  induction before with
  | nil => rw [byteSize_nil, dropBytes, List.nil_append]
  | cons c rest ih =>
    rw [List.cons_append, byteSize_cons, dropBytes_cons _ (Nat.le_add_right _ _), Nat.add_sub_cancel_left, ih]

theorem takeBytes_append (before after : List Char) : takeBytes (byteSize before) (before ++ after) = some before := by
  induction before with
  | nil => rw [byteSize_nil, takeBytes]
  | cons c rest ih =>
    rw [List.cons_append, byteSize_cons, takeBytes_cons _ (Nat.le_add_right _ _), Nat.add_sub_cancel_left, ih]
    rfl

theorem append_of_dropBytes {count : Nat} {text after : List Char} (dropped : dropBytes count text = some after) :
    ∃ before, text = before ++ after ∧ byteSize before = count := by
  fun_induction dropBytes count text with
  | case1 text => exact ⟨[], Option.some.inj dropped, rfl⟩
  | case2 count => cases dropped
  | case3 count c rest fits ih =>
    obtain ⟨before, rfl, size⟩ := ih dropped
    exact ⟨c :: before, rfl, by rw [byteSize_cons]; omega⟩
  | case4 count c rest small => cases dropped

theorem append_of_takeBytes {count : Nat} {text before : List Char} (taken : takeBytes count text = some before) :
    ∃ after, text = before ++ after ∧ byteSize before = count := by
  fun_induction takeBytes count text generalizing before with
  | case1 text =>
    cases Option.some.inj taken
    exact ⟨text, rfl, rfl⟩
  | case2 count => cases taken
  | case3 count c rest fits ih =>
    obtain ⟨shorter, again, rfl⟩ := Option.map_eq_some_iff.mp taken
    obtain ⟨after, rfl, size⟩ := ih again
    exact ⟨after, rfl, by rw [byteSize_cons]; omega⟩
  | case4 count c rest small => cases taken

-- An offset between two characters of a text or at one of its ends.
def IsBoundary (text : List Char) (offset : Nat) : Prop :=
  ∃ before after, text = before ++ after ∧ byteSize before = offset

theorem isBoundary_iff {text : List Char} {offset : Nat} :
    IsBoundary text offset ↔ (dropBytes offset text).isSome = true := by
  constructor
  · rintro ⟨before, after, rfl, rfl⟩
    rw [dropBytes_append]
    rfl
  · intro dropped
    obtain ⟨after, dropped⟩ := Option.isSome_iff_exists.mp dropped
    obtain ⟨before, same, size⟩ := append_of_dropBytes dropped
    exact ⟨before, after, same, size⟩

instance (text : List Char) (offset : Nat) : Decidable (IsBoundary text offset) :=
  decidable_of_iff _ isBoundary_iff.symm

theorem slice_append (before part after : List Char) :
    slice (before ++ (part ++ after)) (byteSize before) (byteSize (before ++ part)) = some part := by
  have ordered : byteSize before ≤ byteSize (before ++ part) := by simp
  rw [slice, if_pos ordered, dropBytes_append, byteSize_append, Nat.add_sub_cancel_left]
  exact takeBytes_append part after

theorem append_of_slice {text part : List Char} {start stop : Nat} (cut : slice text start stop = some part) :
    ∃ before after, text = before ++ (part ++ after) ∧ byteSize before = start ∧ byteSize (before ++ part) = stop := by
  rw [slice] at cut
  split at cut
  · obtain ⟨tail, dropped, taken⟩ := Option.bind_eq_some_iff.mp cut
    obtain ⟨before, rfl, start⟩ := append_of_dropBytes dropped
    obtain ⟨after, rfl, size⟩ := append_of_takeBytes taken
    exact ⟨before, after, rfl, start, by rw [byteSize_append]; omega⟩
  · cases cut

theorem slice_eq_none {text : List Char} {stop : Nat} (inside : ¬ IsBoundary text stop) (start : Nat) :
    slice text start stop = none := by
  cases cut : slice text start stop with
  | none => rfl
  | some part =>
    obtain ⟨before, after, rfl, _, size⟩ := append_of_slice cut
    exact absurd ⟨before ++ part, after, (List.append_assoc ..).symm, size⟩ inside

theorem exists_append_of_byteSize_le {before after before' after' : List Char}
    (same : before ++ after = before' ++ after') (less : byteSize before ≤ byteSize before') :
    ∃ part, before' = before ++ part ∧ after = part ++ after' := by
  rcases List.append_eq_append_iff.mp same with ⟨part, longer, rest⟩ | ⟨part, longer, rest⟩
  · exact ⟨part, longer, rest⟩
  · rw [longer, byteSize_append] at less
    cases byteSize_eq_zero_iff.mp (show byteSize part = 0 by omega)
    exact ⟨[], by simpa using longer.symm, by simpa using rest.symm⟩

end ScriptAudit.Text
