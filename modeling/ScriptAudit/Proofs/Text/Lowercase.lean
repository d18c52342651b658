import ScriptAudit.Proofs.Text.Ascii
import ScriptAudit.Text.Lowercase

namespace ScriptAudit.Text

namespace Lowercase

-- Whether a capital sigma between two texts takes the final form. The first text is read from its end.
def isFinal (passed rest : List Char) : Bool := meetsCased passed && !meetsCased rest

def formOf (passed : List Char) (c : Char) (rest : List Char) : List Char :=
  if c == capitalSigma then if isFinal passed rest then ['ς'] else ['σ'] else ofChar c

theorem lowerFrom_cons (passed : List Char) (c : Char) (rest : List Char) :
    lowerFrom passed (c :: rest) = formOf passed c rest ++ lowerFrom (c :: passed) rest := rfl

theorem formOf_eq_iff {passed passed' rest rest' : List Char} {c : Char} :
    formOf passed c rest = formOf passed' c rest' ↔
      (c = capitalSigma → isFinal passed rest = isFinal passed' rest') := by
  unfold formOf
  by_cases sigma : c = capitalSigma
  · rw [if_pos (beq_iff_eq.mpr sigma), if_pos (beq_iff_eq.mpr sigma)]
    cases isFinal passed rest <;> cases isFinal passed' rest' <;> simp [sigma]
  · simp [sigma]

theorem length_formOf (passed passed' : List Char) (c : Char) (rest rest' : List Char) :
    (formOf passed c rest).length = (formOf passed' c rest').length := by
  unfold formOf
  split
  · split <;> split <;> rfl
  · rfl

def lowerWithin (passed later : List Char) : List Char → List Char
  | [] => []
  | c :: rest => formOf passed c (rest ++ later) ++ lowerWithin (c :: passed) later rest

theorem lowerFrom_append (passed part later : List Char) :
    lowerFrom passed (part ++ later) = lowerWithin passed later part ++ lowerFrom (part.reverse ++ passed) later := by
  induction part generalizing passed with
  | nil => rfl
  | cons c rest ih =>
    rw [List.cons_append, lowerFrom_cons, ih, lowerWithin, List.append_assoc, List.reverse_cons, List.append_assoc]
    rfl

theorem lowerWithin_nil (passed part : List Char) : lowerWithin passed [] part = lowerFrom passed part := by
  have whole := lowerFrom_append passed part []
  have nothing : lowerFrom (part.reverse ++ passed) [] = [] := rfl
  rw [nothing, List.append_nil, List.append_nil] at whole
  exact whole.symm

def SameForms (part passed later passed' later' : List Char) : Prop :=
  ∀ front back, part = front ++ capitalSigma :: back →
    isFinal (front.reverse ++ passed) (back ++ later) = isFinal (front.reverse ++ passed') (back ++ later')

variable {part passed later passed' later' : List Char}

theorem sameForms_cons {c : Char} {rest : List Char} : SameForms (c :: rest) passed later passed' later' ↔
    (c = capitalSigma → isFinal passed (rest ++ later) = isFinal passed' (rest ++ later')) ∧
      SameForms rest (c :: passed) later (c :: passed') later' := by
  constructor
  · intro same
    refine ⟨?_, ?_⟩
    · rintro rfl
      exact same [] rest rfl
    · rintro front back rfl
      simpa using same (c :: front) back rfl
  · rintro ⟨first, others⟩ front back parts
    cases front with
    | nil =>
      obtain ⟨rfl, rfl⟩ := List.cons.inj parts
      exact first rfl
    | cons d front =>
      obtain ⟨rfl, deeper⟩ := List.cons.inj parts
      simpa using others front back deeper

theorem lowerWithin_eq_iff : lowerWithin passed later part = lowerWithin passed' later' part ↔
    SameForms part passed later passed' later' := by
  induction part generalizing passed passed' with
  | nil => simp [lowerWithin, SameForms]
  | cons c rest ih =>
    rw [lowerWithin, lowerWithin, sameForms_cons, ← ih, ← formOf_eq_iff]
    constructor
    · -- Whatever stands around a character, its form has one length, so the two texts part at the same place.
      intro same
      exact List.append_inj same (length_formOf _ _ _ _ _)
    · rintro ⟨first, others⟩
      rw [first, others]

-- Each capital sigma of a part keeps, between two texts, the form that it has when the part stands alone.
def KeepsForms (before part after : List Char) : Prop := SameForms part before.reverse after [] []

instance (before part after : List Char) : Decidable (KeepsForms before part after) :=
  decidable_of_iff _ lowerWithin_eq_iff

theorem keepsForms_of_not_mem (before after : List Char) (absent : capitalSigma ∉ part) :
    KeepsForms before part after := by
  rintro front back rfl
  exact absurd (by simp) absent

theorem lower_append (before part after : List Char) (keeps : KeepsForms before part after) :
    ∃ front back, lower (before ++ (part ++ after)) = front ++ (lower part ++ back) := by
  have alone : lowerWithin before.reverse after part = lower part := by
    rw [lowerWithin_eq_iff.mpr keeps, lowerWithin_nil, lower]
  refine ⟨lowerWithin [] (part ++ after) before, lowerFrom (part.reverse ++ before.reverse) after, ?_⟩
  rw [lower, lowerFrom_append, lowerFrom_append, List.append_nil, alone]

-- What stands around a character decides no more than which of its two forms a small sigma has.

def foldSigma (c : Char) : Char := if c = 'ς' then 'σ' else c

def foldedForm (c : Char) : List Char := (formOf [] c []).map foldSigma

theorem map_formOf (passed : List Char) (c : Char) (rest : List Char) :
    (formOf passed c rest).map foldSigma = foldedForm c := by
  unfold foldedForm formOf
  split
  · split <;> split <;> rfl
  · rfl

theorem map_lowerFrom (passed text : List Char) :
    (lowerFrom passed text).map foldSigma = text.flatMap foldedForm := by
  induction text generalizing passed with
  | nil => rfl
  | cons c rest ih => rw [lowerFrom_cons, List.map_append, map_formOf, ih, List.flatMap_cons]

theorem map_foldSigma {text : List Char} (absent : 'ς' ∉ text) : text.map foldSigma = text := by
  induction text with
  | nil => rfl
  | cons c rest ih =>
    rw [List.mem_cons, not_or] at absent
    rw [List.map_cons, ih absent.2, foldSigma, if_neg (Ne.symm absent.1)]

theorem infix_map_foldSigma {term : List Char} (unended : 'ς' ∉ term) (undecided : 'σ' ∉ term) (text : List Char) :
    term <:+: text.map foldSigma ↔ term <:+: text := by
  constructor
  · intro found
    obtain ⟨part, inside, rfl⟩ := List.infix_map_iff.mp found
    have absent : 'ς' ∉ part := fun member => undecided (List.mem_map_of_mem member)
    rwa [map_foldSigma absent]
  · intro found
    rw [← map_foldSigma unended]
    exact found.map foldSigma

-- Capital and small ASCII letters have the same lower case and stand for each other beside a sigma.

theorem inRanges_ignorable_letter {n : Nat} (letter : 65 ≤ n ∧ n ≤ 90 ∨ 97 ≤ n ∧ n ≤ 122) :
    inRanges ignorableRanges n = false := by
  have apart : ∀ range ∈ ignorableRanges, range.2 < 65 ∨ 90 < range.1 ∧ range.2 < 97 ∨ 122 < range.1 := by
    decide +kernel
  rw [inRanges, List.any_eq_false]
  intro range listed inside
  rw [Bool.and_eq_true, decide_eq_true_iff, decide_eq_true_iff] at inside
  have := apart range listed
  omega

theorem isIgnorable_toLower (c : Char) : isIgnorable c.toLower = isIgnorable c := by
  apply apply_toLower
  intro n letter
  have capital : ∀ n < 26, (Char.ofNat (65 + n)).toNat = 65 + n := by decide
  have small : ∀ n < 26, (Char.ofNat (65 + n)).toLower.toNat = 97 + n := by decide
  unfold isIgnorable
  rw [capital n letter, small n letter, inRanges_ignorable_letter (.inr (by omega)),
    inRanges_ignorable_letter (.inl (by omega))]

theorem isCased_toLower (c : Char) : isCased c.toLower = isCased c := by
  apply apply_toLower
  decide +kernel

theorem meetsCased_foldAscii (text : List Char) : meetsCased (foldAscii text) = meetsCased text := by
  induction text with
  | nil => rfl
  | cons c rest ih =>
    unfold meetsCased at ih ⊢
    rw [foldAscii_cons, List.dropWhile_cons, List.dropWhile_cons, isIgnorable_toLower]
    cases isIgnorable c with
    | true => exact ih
    | false => exact isCased_toLower c

theorem formOf_toLower (passed : List Char) (c : Char) (rest : List Char) :
    formOf (foldAscii passed) c.toLower (foldAscii rest) = formOf passed c rest := by
  have final : isFinal (foldAscii passed) (foldAscii rest) = isFinal passed rest := by
    rw [isFinal, isFinal, meetsCased_foldAscii, meetsCased_foldAscii]
  have sigma : (c.toLower == capitalSigma) = (c == capitalSigma) := by
    apply apply_toLower (f := (· == capitalSigma))
    decide +kernel
  have image : ofChar c.toLower = ofChar c := by
    apply apply_toLower
    decide +kernel
  rw [formOf, formOf, final, sigma, image]

theorem lowerFrom_foldAscii (passed text : List Char) :
    lowerFrom (foldAscii passed) (foldAscii text) = lowerFrom passed text := by
  induction text generalizing passed with
  | nil => rfl
  | cons c rest ih =>
    have behind := ih (c :: passed)
    rw [foldAscii_cons] at behind
    rw [foldAscii_cons, lowerFrom_cons, lowerFrom_cons, formOf_toLower, behind]

end Lowercase

theorem infix_lower_iff {term : List Char} (unended : 'ς' ∉ term) (undecided : 'σ' ∉ term) (text : List Char) :
    term <:+: lower text ↔ term <:+: text.flatMap Lowercase.foldedForm := by
  rw [lower, ← Lowercase.map_lowerFrom, Lowercase.infix_map_foldSigma unended undecided]

theorem lower_eq_of_foldAscii {a b : List Char} (same : foldAscii a = foldAscii b) : lower a = lower b := by
  have folded (text : List Char) : lower (foldAscii text) = lower text := Lowercase.lowerFrom_foldAscii [] text
  rw [← folded a, same, folded b]

end ScriptAudit.Text
