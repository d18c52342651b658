import Mathlib.Data.List.Basic
import ScriptAudit.Xml.Reader

namespace ScriptAudit

-- What a reader is relied on for: a name loses no more than its prefix, and white space stands for itself in a text.
structure XmlReader.Lawful (reader : XmlReader) : Prop where
  localName_plain : ∀ name, ':' ∉ name → reader.localName name = name
  localName_prefixed : ∀ front name, ':' ∉ front → reader.localName (front ++ ':' :: name) = name
  unescape_nil : reader.unescape [] = some []
  unescape_cons : ∀ c text, Xml.isBlank c = true → reader.unescape (c :: text) = (reader.unescape text).map (c :: ·)
  unescape_concat : ∀ text c, Xml.isBlank c = true →
    reader.unescape (text ++ [c]) = (reader.unescape text).map (· ++ [c])

namespace Xml

-- What is left of a text without some of the white space at its ends.
def LeftOf (whole piece : List Char) : Prop :=
  ∃ front back, (∀ c ∈ front, isBlank c = true) ∧ (∀ c ∈ back, isBlank c = true) ∧ whole = front ++ (piece ++ back)

-- Events as a reader passes them on: all of them in their order, but that texts may lose white space at their ends, and
-- that texts of nothing else may be left out.
inductive PassedOn : List XmlEvent → List XmlEvent → Prop where
  | nil : PassedOn [] []
  | same {raw events : List XmlEvent} (event : XmlEvent) (rest : PassedOn raw events) :
      PassedOn (event :: raw) (event :: events)
  | text {raw events : List XmlEvent} {whole piece : List Char} (left : LeftOf whole piece)
      (rest : PassedOn raw events) : PassedOn (.text whole :: raw) (.text piece :: events)
  | blank {raw events : List XmlEvent} {content : List Char} (blank : ∀ c ∈ content, isBlank c = true)
      (rest : PassedOn raw events) : PassedOn (.text content :: raw) events

theorem LeftOf.refl (text : List Char) : LeftOf text text := ⟨[], [], by simp⟩

variable {raw events : List XmlEvent} {whole piece : List Char}

theorem PassedOn.exists_whole (passed : PassedOn raw events) (kept : .text piece ∈ events) :
    ∃ whole, .text whole ∈ raw ∧ LeftOf whole piece := by
  induction passed with
  | nil => cases kept
  | same event _ ih =>
    cases kept with
    | head => exact ⟨piece, List.mem_cons_self, .refl piece⟩
    | tail _ later =>
      obtain ⟨whole, stands, left⟩ := ih later
      exact ⟨whole, List.mem_cons_of_mem _ stands, left⟩
  | @text raw events own _ left _ ih =>
    cases kept with
    | head => exact ⟨own, List.mem_cons_self, left⟩
    | tail _ later =>
      obtain ⟨whole, stands, left'⟩ := ih later
      exact ⟨whole, List.mem_cons_of_mem _ stands, left'⟩
  | blank _ _ ih =>
    obtain ⟨whole, stands, left⟩ := ih kept
    exact ⟨whole, List.mem_cons_of_mem _ stands, left⟩

theorem PassedOn.blank_or_exists_left (passed : PassedOn raw events) (stands : .text whole ∈ raw) :
    (∀ c ∈ whole, isBlank c = true) ∨ ∃ piece, .text piece ∈ events ∧ LeftOf whole piece := by
  induction passed with
  | nil => cases stands
  | same event _ ih =>
    cases stands with
    | head => exact .inr ⟨whole, List.mem_cons_self, .refl whole⟩
    | tail _ later =>
      refine (ih later).imp_right fun found => ?_
      obtain ⟨piece, kept, left⟩ := found
      exact ⟨piece, List.mem_cons_of_mem _ kept, left⟩
  | @text raw events _ own left _ ih =>
    cases stands with
    | head => exact .inr ⟨own, List.mem_cons_self, left⟩
    | tail _ later =>
      refine (ih later).imp_right fun found => ?_
      obtain ⟨piece, kept, left'⟩ := found
      exact ⟨piece, List.mem_cons_of_mem _ kept, left'⟩
  | blank blank _ ih =>
    cases stands with
    | head => exact .inl blank
    | tail _ later => exact ih later

end Xml

namespace XmlReader.Lawful

variable {reader : XmlReader} {front back whole piece : List Char}

theorem unescape_blanks_append (laws : reader.Lawful) (blank : ∀ c ∈ front, Xml.isBlank c = true) (text : List Char) :
    reader.unescape (front ++ text) = (reader.unescape text).map (front ++ ·) := by
  induction front with
  | nil => simp
  | cons c rest ih =>
    obtain ⟨first, others⟩ := List.forall_mem_cons.mp blank
    rw [List.cons_append, laws.unescape_cons c _ first, ih others, Option.map_map]
    rfl

theorem unescape_append_blanks (laws : reader.Lawful) (blank : ∀ c ∈ back, Xml.isBlank c = true) (text : List Char) :
    reader.unescape (text ++ back) = (reader.unescape text).map (· ++ back) := by
  induction back generalizing text with
  | nil => simp
  | cons c rest ih =>
    obtain ⟨first, others⟩ := List.forall_mem_cons.mp blank
    rw [List.append_cons, ih others, laws.unescape_concat text c first, Option.map_map]
    simp [Function.comp_def]

theorem unescape_blanks (laws : reader.Lawful) (blank : ∀ c ∈ back, Xml.isBlank c = true) :
    reader.unescape back = some back := by
  have whole := laws.unescape_blanks_append blank []
  simpa [laws.unescape_nil] using whole

theorem unescape_leftOf (laws : reader.Lawful) (left : Xml.LeftOf whole piece) : ∃ front back,
    (∀ c ∈ front, Xml.isBlank c = true) ∧ (∀ c ∈ back, Xml.isBlank c = true) ∧
      reader.unescape whole = (reader.unescape piece).map fun said => front ++ (said ++ back) := by
  obtain ⟨front, back, before, behind, rfl⟩ := left
  refine ⟨front, back, before, behind, ?_⟩
  rw [laws.unescape_blanks_append before, laws.unescape_append_blanks behind, Option.map_map]
  rfl

end XmlReader.Lawful

namespace Xml

theorem ne_of_isBlank {c : Char} (blank : isBlank c = true) : (c == '&') = false ∧ (c == ';') = false := by
  simp only [isBlank, Bool.or_eq_true, beq_iff_eq] at blank
  rcases blank with ((rfl | rfl) | rfl) | rfl <;> decide

theorem unescapeFrom_concat (begun : Option (List Char)) (text : List Char) {c : Char} (blank : isBlank c = true) :
    unescapeFrom begun (text ++ [c]) = (unescapeFrom begun text).map (· ++ [c]) := by
  obtain ⟨unstarted, unended⟩ := ne_of_isBlank blank
  induction text generalizing begun with
  | nil => cases begun <;> simp [unescapeFrom, unstarted, unended]
  | cons first rest ih =>
    cases begun with
    | none =>
      rw [List.cons_append, unescapeFrom, unescapeFrom, ih, ih]
      split
      · rfl
      · cases unescapeFrom none rest <;> rfl
    | some begun =>
      rw [List.cons_append, unescapeFrom, unescapeFrom, ih, ih]
      split
      · rfl
      split
      · cases entity begun.reverse <;> cases unescapeFrom none rest <;> rfl
      · rfl

theorem lawful_reader : reader.Lawful where
  localName_plain name plain := by simp [reader, localName, plain]
  localName_prefixed front name plain := by
    have kept : ∀ c ∈ front, (c != ':') = true := by
      intro c member
      simpa using fun same : c = ':' => plain (same ▸ member)
    simp [reader, localName, List.dropWhile_append_of_pos kept]
  unescape_nil := rfl
  unescape_cons c text blank := by
    change unescapeFrom none (c :: text) = _
    rw [unescapeFrom, (ne_of_isBlank blank).1]
    rfl
  unescape_concat text c blank := unescapeFrom_concat none text blank

end Xml

end ScriptAudit
