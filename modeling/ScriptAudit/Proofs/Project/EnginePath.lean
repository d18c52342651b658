import ScriptAudit.Project.Detection
import ScriptAudit.Proofs.Text.Blank
import ScriptAudit.Proofs.Text.Lowercase
import ScriptAudit.Proofs.Text.Occurrence
import ScriptAudit.Xml.Event

namespace ScriptAudit

open Text Text.Lowercase

def Mentions (path : List Char) (term : String) : Prop := term.toList <:+: path.flatMap foldedForm

theorem mentions_iff {path : List Char} {term : String} (unended : 'ς' ∉ term.toList)
    (undecided : 'σ' ∉ term.toList) : occurs term.toList (lower path) = true ↔ Mentions path term := by
  rw [Mentions, ← infix_lower_iff unended undecided, occurs_iff_infix]

theorem isEngineHintPath_iff (path : List Char) : isEngineHintPath path = true ↔
    Mentions path "unityengine.dll" ∨ Mentions path "unityeditor.dll" ∨
      Mentions path "unity" ∧ Mentions path "managed" := by
  simp only [isEngineHintPath, Bool.or_eq_true, Bool.and_eq_true, or_assoc]
  refine or_congr (mentions_iff ?_ ?_) (or_congr (mentions_iff ?_ ?_)
    (and_congr (mentions_iff ?_ ?_) (mentions_iff ?_ ?_))) <;> decide +kernel

theorem Mentions.of_infix {part path : List Char} {term : String} (mentions : Mentions part term)
    (inside : part <:+: path) : Mentions path term := by
  obtain ⟨front, back, rfl⟩ := inside
  unfold Mentions at mentions ⊢
  rw [List.flatMap_append, List.flatMap_append]
  exact mentions.trans (List.infix_append _ _ _)

theorem isEngineHintPath_of_infix {part path : List Char} (inside : part <:+: path)
    (engine : isEngineHintPath part = true) : isEngineHintPath path = true := by
  rw [isEngineHintPath_iff] at engine ⊢
  rcases engine with dll | dll | ⟨unity, managed⟩
  · exact .inl (dll.of_infix inside)
  · exact .inr (.inl (dll.of_infix inside))
  · exact .inr (.inr ⟨unity.of_infix inside, managed.of_infix inside⟩)

theorem isBlank_of_xml {c : Char} (blank : Xml.isBlank c = true) : isBlank c = true ∧ foldedForm c = [c] := by
  simp only [Xml.isBlank, Bool.or_eq_true, beq_iff_eq] at blank
  rcases blank with ((rfl | rfl) | rfl) | rfl <;> decide +kernel

theorem flatMap_blanks {text : List Char} (blank : ∀ c ∈ text, Xml.isBlank c = true) :
    text.flatMap foldedForm = text := by
  induction text with
  | nil => rfl
  | cons c rest ih =>
    obtain ⟨first, others⟩ := List.forall_mem_cons.mp blank
    rw [List.flatMap_cons, ih others, (isBlank_of_xml first).2]
    rfl

section Blanks

variable {front back : List Char} (before : ∀ c ∈ front, Xml.isBlank c = true)
  (behind : ∀ c ∈ back, Xml.isBlank c = true)

include before behind

theorem mentions_blanks {term : String} (path : List Char) (bare : trim term.toList = term.toList) :
    Mentions (front ++ (path ++ back)) term ↔ Mentions path term := by
  constructor
  · intro mentions
    have found := trim_infix_trim mentions
    rw [List.flatMap_append, List.flatMap_append, flatMap_blanks before, flatMap_blanks behind, bare,
      trim_blanks_append fun c member => (isBlank_of_xml (before c member)).1,
      trim_append_blanks _ fun c member => (isBlank_of_xml (behind c member)).1] at found
    exact found.trans (trim_isInfix _)
  · intro mentions
    exact mentions.of_infix ⟨front, back, List.append_assoc ..⟩

theorem isEngineHintPath_blanks (path : List Char) :
    isEngineHintPath (front ++ (path ++ back)) = isEngineHintPath path := by
  rw [Bool.eq_iff_iff, isEngineHintPath_iff, isEngineHintPath_iff]
  refine or_congr (mentions_blanks before behind path ?_) (or_congr (mentions_blanks before behind path ?_)
    (and_congr (mentions_blanks before behind path ?_) (mentions_blanks before behind path ?_))) <;> decide +kernel

end Blanks

end ScriptAudit
