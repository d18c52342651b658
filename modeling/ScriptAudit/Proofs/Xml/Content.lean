import ScriptAudit.Xml.Event

namespace ScriptAudit

def XmlEvent.isTag : XmlEvent → Bool
  | .opening _ | .closing _ => true
  | _ => false

namespace Xml

inductive Balanced : List XmlEvent → Prop where
  | nil : Balanced []
  | single {event : XmlEvent} {later : List XmlEvent} (untagged : event.isTag = false) :
      Balanced later → Balanced (event :: later)
  | element {name : List Char} {inner later : List XmlEvent} :
      Balanced inner → Balanced later → Balanced (.opening name :: (inner ++ .closing name :: later))

-- An element with what stands between its tags, or with nothing where one tag is all of it.
inductive IsElement (whole : List XmlEvent) (name : List Char) : List XmlEvent → Prop where
  | paired {before inner after : List XmlEvent} (balanced : Balanced inner)
      (parts : whole = before ++ .opening name :: (inner ++ .closing name :: after)) : IsElement whole name inner
  | alone (listed : .emptyElement name ∈ whole) : IsElement whole name []

theorem Balanced.exists_closing {whole before rest : List XmlEvent} {name : List Char} (balanced : Balanced whole)
    (parts : whole = before ++ .opening name :: rest) :
    ∃ inner after, rest = inner ++ .closing name :: after ∧ Balanced inner := by
  induction balanced generalizing before rest with
  | nil => simp at parts
  | @single event later untagged _ ih =>
    rcases List.cons_eq_append_iff.mp parts with ⟨_, here⟩ | ⟨before', _, deeper⟩
    · obtain ⟨rfl, _⟩ := List.cons.inj here
      cases untagged
    · exact ih deeper
  | @element other inner later within _ ihInner ihLater =>
    rcases List.cons_eq_append_iff.mp parts with ⟨_, here⟩ | ⟨before', _, deeper⟩
    · cases here
      exact ⟨inner, later, rfl, within⟩
    rcases List.append_eq_append_iff.mp deeper with ⟨part, _, behind⟩ | ⟨part, inside, behind⟩
    · rcases List.cons_eq_append_iff.mp behind with ⟨_, here⟩ | ⟨part', _, further⟩
      · cases here
      · exact ihLater further
    · rcases List.cons_eq_append_iff.mp behind with ⟨_, here⟩ | ⟨part', rfl, further⟩
      · cases here
      · obtain ⟨inner', after, rfl, within'⟩ := ihInner inside
        exact ⟨inner', after ++ .closing other :: later, by rw [further]; simp, within'⟩

theorem Balanced.exists_element {whole before between after : List XmlEvent} {name : List Char} {event : XmlEvent}
    (balanced : Balanced whole) (parts : whole = before ++ .opening name :: (between ++ event :: after))
    (opened : .closing name ∉ between) (untagged : event.isTag = false) :
    ∃ inner, IsElement whole name inner ∧ event ∈ inner := by
  obtain ⟨inner, behind, same, within⟩ := balanced.exists_closing parts
  refine ⟨inner, .paired within (same ▸ parts), ?_⟩
  rcases List.append_eq_append_iff.mp same with ⟨part, inside, rest⟩ | ⟨part, longer, rest⟩
  · rcases List.cons_eq_append_iff.mp rest with ⟨_, here⟩ | ⟨part', rfl, _⟩
    · obtain ⟨rfl, _⟩ := List.cons.inj here
      cases untagged
    · rw [inside]
      exact List.mem_append_right _ List.mem_cons_self
  · rcases List.cons_eq_append_iff.mp rest with ⟨_, here⟩ | ⟨part', rfl, _⟩
    · obtain ⟨rfl, _⟩ := List.cons.inj here
      cases untagged
    · refine absurd ?_ opened
      rw [longer]
      exact List.mem_append_right _ List.mem_cons_self

theorem IsElement.subset {whole inner : List XmlEvent} {name : List Char} (element : IsElement whole name inner) :
    inner ⊆ whole := by
  cases element with
  | paired _ parts =>
    intro event inside
    simp [parts, inside]
  | alone => exact List.nil_subset _

end Xml

namespace XmlReader

variable (reader : XmlReader)

-- The text and the character data of events one behind the other, with entities replaced and all else left out.
def characterContent : List XmlEvent → Option (List Char)
  | [] => some []
  | .text content :: later => (reader.unescape content).bind fun path => (characterContent later).map (path ++ ·)
  | .characterData content :: later => (characterContent later).map (content ++ ·)
  | _ :: later => characterContent later

structure WellFormed (whole : List XmlEvent) : Prop where
  balanced : Xml.Balanced whole
  decodes : ∀ content, .text content ∈ whole → (reader.unescape content).isSome = true

theorem exists_characterContent {inner : List XmlEvent}
    (decodes : ∀ content, .text content ∈ inner → (reader.unescape content).isSome = true) :
    ∃ content, reader.characterContent inner = some content ∧
      ∀ piece path, .text piece ∈ inner → reader.unescape piece = some path → path <:+: content := by
  induction inner with
  | nil => exact ⟨[], rfl, nofun⟩
  | cons event later ih =>
    obtain ⟨rest, read, within⟩ := ih fun content member => decodes content (List.mem_cons_of_mem _ member)
    cases event with
    | text own =>
      obtain ⟨said, read'⟩ := Option.isSome_iff_exists.mp (decodes own List.mem_cons_self)
      refine ⟨said ++ rest, by simp [characterContent, read, read'], ?_⟩
      intro piece path member decoded
      cases List.mem_cons.mp member with
      | inl same =>
        cases same
        cases read'.symm.trans decoded
        exact List.infix_append' [] said rest
      | inr member => exact (within piece path member decoded).trans (List.suffix_append _ _).isInfix
    | characterData own =>
      refine ⟨own ++ rest, by simp [characterContent, read], ?_⟩
      intro piece path member decoded
      have inside := within piece path (by simpa using member) decoded
      exact inside.trans (List.suffix_append _ _).isInfix
    | opening _ | closing _ | emptyElement _ | other =>
      exact ⟨rest, read, fun piece path member => within piece path (by simpa using member)⟩

end XmlReader

end ScriptAudit
