import Mathlib.Data.Char
import ScriptAudit.Proofs.Text.Bytes
import ScriptAudit.Text.Ascii

namespace ScriptAudit.Text

theorem foldAscii_cons (c : Char) (text : List Char) : foldAscii (c :: text) = c.toLower :: foldAscii text := rfl

theorem exists_letter_of_isUpper {c : Char} (upper : c.isUpper = true) : ∃ n < 26, c = Char.ofNat (65 + n) := by
  obtain ⟨least, greatest⟩ := of_decide_eq_true upper
  have low : 65 ≤ c.toNat := UInt32.le_iff_toNat_le.mp least
  have high : c.toNat ≤ 90 := UInt32.le_iff_toNat_le.mp greatest
  refine ⟨c.toNat - 65, by omega, ?_⟩
  rw [Nat.add_sub_cancel' low, Char.ofNat_toNat]

theorem toLower_of_not_isUpper {c : Char} (small : ¬ c.isUpper = true) : c.toLower = c := by
  unfold Char.toLower
  apply dif_neg
  intro upper
  exact small (decide_eq_true upper)

theorem apply_toLower {β : Type} {f : Char → β}
    (letters : ∀ n < 26, f (Char.ofNat (65 + n)).toLower = f (Char.ofNat (65 + n))) (c : Char) :
    f c.toLower = f c := by
  by_cases upper : c.isUpper = true
  · obtain ⟨n, letter, rfl⟩ := exists_letter_of_isUpper upper
    exact letters n letter
  · rw [toLower_of_not_isUpper upper]

theorem utf8Size_toLower (c : Char) : c.toLower.utf8Size = c.utf8Size := by
  apply apply_toLower
  decide

theorem byteSize_foldAscii (text : List Char) : byteSize (foldAscii text) = byteSize text := by
  induction text with
  | nil => rfl
  | cons c rest ih =>
    rw [foldAscii_cons, byteSize_cons, byteSize_cons, utf8Size_toLower, ih]

end ScriptAudit.Text
