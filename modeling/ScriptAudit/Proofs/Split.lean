import Mathlib.Data.List.Basic

namespace ScriptAudit

theorem intercalate_cons {α : Type} (mark : α) (part : List α) (later : List (List α)) :
    [mark].intercalate (part :: later) = part ++ later.flatMap (mark :: ·) := by
  induction later generalizing part with
  | nil => simp
  | cons next rest ih =>
    rw [List.intercalate_cons_cons, ih]
    simp

theorem intercalate_append_cons {α : Type} (mark : α) (earlier : List (List α)) (part : List α)
    (later : List (List α)) : [mark].intercalate (earlier ++ part :: later) =
      earlier.flatMap (· ++ [mark]) ++ part ++ later.flatMap (mark :: ·) := by
  induction earlier with
  | nil => exact intercalate_cons mark part later
  | cons first rest ih =>
    rw [List.cons_append, List.intercalate_cons_of_ne_nil (by simp), ih]
    simp

theorem not_mem_of_mem_splitOn {α : Type} [BEq α] [LawfulBEq α] {mark : α} {items part : List α}
    (member : part ∈ items.splitOn mark) : mark ∉ part := by
  induction items generalizing part with
  | nil =>
    cases List.mem_singleton.mp member
    exact List.not_mem_nil
  | cons item rest ih =>
    rw [List.splitOn_cons_eq_if_modifyHead] at member
    split at member
    next same =>
      rcases List.mem_cons.mp member with rfl | inRest
      · exact List.not_mem_nil
      · exact ih inRest
    next apart =>
      obtain ⟨first, others, cut⟩ := List.exists_cons_of_ne_nil (List.splitOn_ne_nil mark rest)
      rw [cut] at member ih
      rcases List.mem_cons.mp member with rfl | later
      · refine List.not_mem_cons_of_ne_of_not_mem ?_ (ih List.mem_cons_self)
        intro same
        exact apart (beq_iff_eq.mpr same.symm)
      · exact ih (List.mem_cons_of_mem _ later)

theorem length_splitOn {α : Type} [BEq α] [LawfulBEq α] (mark : α) (items : List α) :
    (items.splitOn mark).length = items.count mark + 1 := by
  induction items with
  | nil => simp
  | cons item rest ih =>
    rw [List.splitOn_cons_eq_if_modifyHead, List.count_cons]
    split
    next same => rw [List.length_cons, ih]
    next apart => rw [List.length_modifyHead, ih]

theorem count_flatMap_append {α : Type} [BEq α] [LawfulBEq α] {mark : α} {parts : List (List α)}
    (bare : ∀ part ∈ parts, mark ∉ part) : (parts.flatMap (· ++ [mark])).count mark = parts.length := by
  induction parts with
  | nil => rfl
  | cons part rest ih =>
    obtain ⟨first, others⟩ := List.forall_mem_cons.mp bare
    rw [List.flatMap_cons, List.count_append, List.count_append, List.count_eq_zero_of_not_mem first, ih others,
      List.count_singleton_self, List.length_cons]
    omega

end ScriptAudit
