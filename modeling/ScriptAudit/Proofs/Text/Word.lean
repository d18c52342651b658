import ScriptAudit.Proofs.Text.Blank
import ScriptAudit.Text.Word

namespace ScriptAudit.Text

structure Decimal (digits : List Char) (number : Nat) : Prop where
  nonempty : digits ≠ []
  plain : ∀ c ∈ digits, c.isDigit = true
  value : Nat.ofDigitChars 10 digits 0 = number

theorem digitsValue_eq (digits : List Char) : digitsValue digits = Nat.ofDigitChars 10 digits 0 := by
  unfold digitsValue Nat.ofDigitChars
  congr 1
  funext value digit
  rw [Nat.mul_comm]

theorem readDigits_eq_some_iff {digits : List Char} {n : UInt32} :
    readDigits digits = some n ↔ Decimal digits n.toNat := by
  unfold readDigits
  rw [digitsValue_eq]
  constructor
  · intro read
    split at read
    · cases read
    · next shaped =>
      rw [Bool.or_eq_true, not_or] at shaped
      dsimp only at read
      split at read
      · next fits =>
        cases read
        refine ⟨by simpa using shaped.1, by simpa using shaped.2, ?_⟩
        rw [UInt32.toNat_ofNat_of_lt' fits]
      · cases read
  · intro written
    have shaped : (digits.isEmpty || !digits.all Char.isDigit) = false := by
      simp [written.nonempty, List.all_eq_true.mpr written.plain]
    rw [shaped, written.value]
    simp [n.toNat_lt]

theorem ne_plus_of_isDigit {c : Char} (digit : c.isDigit = true) : c ≠ '+' := by
  rintro rfl
  cases digit

theorem readWord_eq_some_iff {text : List Char} {n : UInt32} : readWord text = some n ↔
    ∃ sign digits, text = sign ++ digits ∧ (sign = [] ∨ sign = ['+']) ∧ Decimal digits n.toNat := by
  constructor
  · intro read
    unfold readWord at read
    split at read
    · next digits =>
      exact ⟨['+'], digits, rfl, .inr rfl, readDigits_eq_some_iff.mp read⟩
    · exact ⟨[], text, rfl, .inl rfl, readDigits_eq_some_iff.mp read⟩
  · rintro ⟨sign, digits, rfl, bare | plus, written⟩
    · rw [bare, List.nil_append, ← readDigits_eq_some_iff.mpr written]
      -- Without a sign the first digit has to be told apart from a plus.
      cases digits with
      | nil => rfl
      | cons c rest =>
        have unsigned := ne_plus_of_isDigit (written.plain c List.mem_cons_self)
        unfold readWord
        split
        · next same => exact absurd (List.cons.inj same).1 unsigned
        · rfl
    · rw [plus]
      exact readDigits_eq_some_iff.mpr written

theorem isBlank_of_isDigit {c : Char} (digit : c.isDigit = true) : isBlank c = false := by
  rw [Char.isDigit_iff_toNat] at digit
  obtain ⟨least, greatest⟩ : 48 ≤ c.toNat ∧ c.toNat ≤ 57 := digit
  unfold isBlank
  grind

theorem Decimal.endsVisible {digits : List Char} {number : Nat} (written : Decimal digits number) :
    EndsVisible digits := by
  obtain empty | ⟨rest, c, same⟩ := List.eq_nil_or_concat' digits
  · exact absurd empty written.nonempty
  · exact ⟨rest, c, same, isBlank_of_isDigit (written.plain c (by simp [same]))⟩

theorem Decimal.startsVisible {digits : List Char} {number : Nat} (written : Decimal digits number) :
    StartsVisible digits := by
  obtain ⟨c, rest, same⟩ := List.exists_cons_of_ne_nil written.nonempty
  exact ⟨c, rest, same, isBlank_of_isDigit (written.plain c (by simp [same]))⟩

theorem decimal_toString (n : Nat) : Decimal (toString n).toList n := by
  have spelled : (toString n).toList = Nat.toDigits 10 n := Nat.toList_repr
  rw [spelled]
  refine ⟨Nat.toDigits_ne_nil, ?_, Nat.ofDigitChars_toDigits (by decide) (by decide)⟩
  intro c member
  exact Nat.isDigit_of_mem_toDigits (by decide) (by decide) member

end ScriptAudit.Text
