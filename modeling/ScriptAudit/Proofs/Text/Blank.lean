import Mathlib.Data.List.DropRight
import ScriptAudit.Text.Blank

namespace ScriptAudit.Text

theorem trimStart_trim (text : List Char) : trimStart (trim text) = trim text := by
  have started : trimStart (trimStart text) = trimStart text := List.dropWhile_idempotent _ _
  unfold trim
  generalize trimStart text = rest at started
  cases kept : trimEnd rest with
  | nil => rfl
  | cons c tail =>
    -- What is cut at the end leaves the first character in place.
    obtain ⟨cut, same⟩ : trimEnd rest <+: rest := List.rdropWhile_prefix _ _
    rw [kept] at same
    have first : isBlank c = false := by
      rw [← same, trimStart, List.dropWhile_eq_self_iff] at started
      simpa using started (by simp)
    simp [trimStart, first]

theorem trim_trim (text : List Char) : trim (trim text) = trim text := by
  have ended : trimEnd (trim text) = trim text := List.rdropWhile_idempotent _ _
  rw [trim, trimStart_trim, ended]

theorem trim_isInfix (text : List Char) : trim text <:+: text := by
  have front : trim text <+: trimStart text := List.rdropWhile_prefix _ _
  exact front.isInfix.trans (List.dropWhile_suffix _).isInfix

theorem not_blank_of_trimStart_eq_self {c : Char} {rest : List Char} (started : trimStart (c :: rest) = c :: rest) :
    isBlank c = false :=
  Bool.eq_false_iff.mpr (List.dropWhile_eq_self_iff.mp started (Nat.zero_lt_succ rest.length))

theorem not_blank_of_mem_head?_trim {text : List Char} {c : Char} (first : c ∈ (trim text).head?) :
    isBlank c = false := by
  obtain ⟨rest, same⟩ := List.head?_eq_some_iff.mp first
  have started := trimStart_trim text
  rw [same] at started
  exact not_blank_of_trimStart_eq_self started

theorem not_blank_of_mem_getLast?_trim {text : List Char} {c : Char} (last : c ∈ (trim text).getLast?) :
    isBlank c = false := by
  obtain ⟨rest, same⟩ := List.getLast?_eq_some_iff.mp last
  have ended : trimEnd (trim text) = trim text := List.rdropWhile_idempotent _ _
  rw [same] at ended
  have stops := List.rdropWhile_eq_self_iff.mp ended (by simp)
  simpa using stops

theorem infix_trimStart {part text : List Char} (found : part <:+: text) (started : trimStart part = part) :
    part <:+: trimStart text := by
  cases part with
  | nil => exact List.nil_infix
  | cons c rest =>
    obtain ⟨before, after, rfl⟩ := found
    have visible := not_blank_of_trimStart_eq_self started
    have kept : trimStart (before ++ (c :: rest) ++ after) = trimStart before ++ (c :: rest) ++ after := by
      rw [List.append_assoc, List.append_assoc, trimStart, trimStart, List.dropWhile_append]
      split
      next all_blank => simp [List.isEmpty_iff.mp all_blank, visible]
      next => rfl
    rw [kept]
    exact List.infix_append _ _ _

theorem trimEnd_eq (text : List Char) : trimEnd text = (trimStart text.reverse).reverse := rfl

theorem infix_trimEnd {part text : List Char} (found : part <:+: text) (ended : trimEnd part = part) :
    part <:+: trimEnd text := by
  have started : trimStart part.reverse = part.reverse := by
    rw [← List.reverse_reverse (trimStart _), ← trimEnd_eq, ended]
  rw [trimEnd_eq, ← List.reverse_infix, List.reverse_reverse]
  exact infix_trimStart (List.reverse_infix.mpr found) started

theorem trim_infix_trim {part text : List Char} (found : part <:+: text) : trim part <:+: trim text := by
  have ended : trimEnd (trim part) = trim part := List.rdropWhile_idempotent _ _
  exact infix_trimEnd (infix_trimStart ((trim_isInfix part).trans found) (trimStart_trim part)) ended

theorem trim_append_blank (text : List Char) {c : Char} (blank : isBlank c = true) : trim (text ++ [c]) = trim text := by
  rw [trim, trim, trimStart, trimStart, List.dropWhile_append]
  split
  next all_blank => simp [List.isEmpty_iff.mp all_blank, blank]
  next => exact List.rdropWhile_concat_pos _ _ _ blank

theorem trim_append_blanks (text : List Char) {back : List Char} (blank : ∀ c ∈ back, isBlank c = true) :
    trim (text ++ back) = trim text := by
  induction back generalizing text with
  | nil => rw [List.append_nil]
  | cons c rest ih =>
    obtain ⟨first, others⟩ := List.forall_mem_cons.mp blank
    rw [List.append_cons, ih (text ++ [c]) others, trim_append_blank text first]

theorem trim_blanks_append {front : List Char} (blank : ∀ c ∈ front, isBlank c = true) (text : List Char) :
    trim (front ++ text) = trim text := by
  rw [trim, trim, trimStart, trimStart, List.dropWhile_append_of_pos blank]

def StartsVisible (text : List Char) : Prop := ∃ c rest, text = c :: rest ∧ isBlank c = false

def EndsVisible (text : List Char) : Prop := ∃ rest c, text = rest ++ [c] ∧ isBlank c = false

theorem StartsVisible.append {text : List Char} (starts : StartsVisible text) (more : List Char) :
    StartsVisible (text ++ more) := by
  obtain ⟨c, rest, rfl, visible⟩ := starts
  exact ⟨c, rest ++ more, rfl, visible⟩

theorem EndsVisible.append {text : List Char} (ends : EndsVisible text) (earlier : List Char) :
    EndsVisible (earlier ++ text) := by
  obtain ⟨rest, c, rfl, visible⟩ := ends
  exact ⟨earlier ++ rest, c, (List.append_assoc ..).symm, visible⟩

theorem trim_eq_self {text : List Char} (starts : StartsVisible text) (ends : EndsVisible text) : trim text = text := by
  have started : trimStart text = text := by
    obtain ⟨c, rest, rfl, visible⟩ := starts
    exact List.dropWhile_cons_of_neg (by simp [visible])
  rw [trim, started]
  obtain ⟨rest, c, rfl, visible⟩ := ends
  exact List.rdropWhile_concat_neg _ _ _ (by simp [visible])

theorem trimStart_append (front : List Char) {text : List Char} (starts : StartsVisible text) :
    trimStart (front ++ text) = trimStart front ++ text := by
  obtain ⟨c, rest, rfl, visible⟩ := starts
  unfold trimStart
  rw [List.dropWhile_append]
  split
  next all_blank => simp [List.isEmpty_iff.mp all_blank, visible]
  next => rfl

theorem trimEnd_append {text : List Char} (ends : EndsVisible text) (back : List Char) :
    trimEnd (text ++ back) = text ++ trimEnd back := by
  have turned : StartsVisible text.reverse := by
    obtain ⟨rest, c, rfl, visible⟩ := ends
    exact ⟨c, rest.reverse, by simp, visible⟩
  rw [trimEnd_eq, List.reverse_append, trimStart_append _ turned, List.reverse_append, List.reverse_reverse,
    ← trimEnd_eq]

theorem trim_trimStart (text : List Char) : trim (trimStart text) = trim text := by
  have started : trimStart (trimStart text) = trimStart text := List.dropWhile_idempotent _ _
  rw [trim, trim, started]

theorem exists_trimEnd_append (text : List Char) :
    ∃ back, text = trimEnd text ++ back ∧ ∀ c ∈ back, isBlank c = true := by
  refine ⟨text.rtakeWhile isBlank, List.rdropWhile_append_rtakeWhile.symm, ?_⟩
  intro c removed
  exact List.mem_rtakeWhile_imp removed

theorem exists_blanks_trim (text : List Char) : ∃ front back, text = front ++ (trim text ++ back) ∧
    (∀ c ∈ front, isBlank c = true) ∧ ∀ c ∈ back, isBlank c = true := by
  obtain ⟨back, ended, behind⟩ := exists_trimEnd_append (trimStart text)
  refine ⟨text.takeWhile isBlank, back, ?_, ?_, behind⟩
  · rw [trim, ← ended]
    exact List.takeWhile_append_dropWhile.symm
  · intro c removed
    exact List.mem_takeWhile_imp removed

end ScriptAudit.Text
