import ScriptAudit.Proofs.TypeName
import ScriptAudit.Proofs.TypeParts
import ScriptAudit.Syntax.Grammar.Script

namespace ScriptAudit

open Text

namespace TypeName

def isMark (c : Char) : Bool := c == '<' || c == '>' || c == '.' || c == ':'

structure Identifier where
  text : List Char
  nonempty : text ≠ []
  plain : ∀ c ∈ text, isBlank c = false ∧ isMark c = false

inductive Balanced : List Char → Prop where
  | nil : Balanced []
  | cons {c : Char} {rest : List Char} (opens : c ≠ '<') (closes : c ≠ '>') (tail : Balanced rest) :
      Balanced (c :: rest)
  | nested {inner rest : List Char} (inside : Balanced inner) (tail : Balanced rest) :
      Balanced ('<' :: (inner ++ '>' :: rest))

structure Segment where
  identifier : Identifier
  arguments : Option {inner : List Char // Balanced inner}

structure Written where
  front : {blanks : List Char // ∀ c ∈ blanks, isBlank c = true}
  aliased : Option Identifier
  qualifiers : List Segment
  last : Segment
  back : {blanks : List Char // ∀ c ∈ blanks, isBlank c = true}

namespace Segment

def isGeneric (segment : Segment) : Bool := segment.arguments.isSome

def text (segment : Segment) : List Char :=
  match segment.arguments with
  | none => segment.identifier.text
  | some inner => segment.identifier.text ++ '<' :: (inner.1 ++ ['>'])

end Segment

def path (qualifiers : List Segment) (last : Segment) : List Char :=
  qualifiers.flatMap (fun qualifier => qualifier.text ++ ['.']) ++ last.text

-- The segment whose arguments are the first ones in front of a dot, or else the last segment.
def cutAt (qualifiers : List Segment) (last : Segment) : Segment :=
  (qualifiers.find? Segment.isGeneric).getD last

namespace Written

def core (written : Written) : List Char :=
  match written.aliased with
  | none => path written.qualifiers written.last
  | some outside => outside.text ++ ':' :: ':' :: path written.qualifiers written.last

def text (written : Written) : List Char := written.front.1 ++ (written.core ++ written.back.1)

def cut (written : Written) : Segment := cutAt written.qualifiers written.last

end Written

section

variable {qualifiers : List Segment} {segment last : Segment} {mark : Char}

theorem Identifier.not_mem (identifier : Identifier) (marks : isMark mark = true) : mark ∉ identifier.text := by
  intro found
  simp [(identifier.plain mark found).2] at marks

theorem Segment.beforeFirst_text (segment : Segment) (rest : List Char) : beforeFirst '<' (segment.text ++ rest) =
    segment.identifier.text ++ if segment.isGeneric then [] else beforeFirst '<' rest := by
  have unopened : '<' ∉ segment.identifier.text := segment.identifier.not_mem rfl
  unfold Segment.text Segment.isGeneric
  cases segment.arguments with
  | none => exact beforeFirst_append unopened rest
  | some inner =>
    rw [List.append_assoc, beforeFirst_append unopened]
    rfl

theorem path_cons (first : Segment) (qualifiers : List Segment) (last : Segment) :
    path (first :: qualifiers) last = first.text ++ '.' :: path qualifiers last := by
  simp [path]

-- Behind the first arguments nothing is read, and in front of them the segments are identifiers.
theorem beforeFirst_path (qualifiers : List Segment) (last : Segment) : ':' ∉ beforeFirst '<' (path qualifiers last) ∧
    afterLast '.' (beforeFirst '<' (path qualifiers last)) = (cutAt qualifiers last).identifier.text := by
  induction qualifiers with
  | nil =>
    have whole := last.beforeFirst_text []
    have nothing : (if last.isGeneric = true then [] else beforeFirst '<' []) = [] := ite_self _
    rw [nothing, List.append_nil, List.append_nil] at whole
    have alone : path [] last = last.text := rfl
    rw [alone, whole]
    exact ⟨last.identifier.not_mem rfl, afterLast_eq_self (last.identifier.not_mem rfl)⟩
  | cons first rest ih =>
    rw [path_cons, first.beforeFirst_text]
    cases generic : first.isGeneric with
    | true =>
      have here : cutAt (first :: rest) last = first := by simp [cutAt, generic]
      rw [if_pos rfl, List.append_nil, here]
      exact ⟨first.identifier.not_mem rfl, afterLast_eq_self (first.identifier.not_mem rfl)⟩
    | false =>
      have later : cutAt (first :: rest) last = cutAt rest last := by simp [cutAt, generic]
      have dotted : beforeFirst '<' ('.' :: path rest last) = '.' :: beforeFirst '<' (path rest last) := rfl
      rw [if_neg (by simp), dotted, afterLast_append_cons, later]
      refine ⟨?_, ih.2⟩
      have unaliased : ':' ∉ first.identifier.text := first.identifier.not_mem rfl
      simp [unaliased, ih.1]

theorem Identifier.startsVisible (identifier : Identifier) : StartsVisible identifier.text := by
  obtain ⟨c, rest, same⟩ := List.exists_cons_of_ne_nil identifier.nonempty
  exact ⟨c, rest, same, (identifier.plain c (by simp [same])).1⟩

theorem Identifier.endsVisible (identifier : Identifier) : EndsVisible identifier.text := by
  obtain empty | ⟨rest, c, same⟩ := List.eq_nil_or_concat' identifier.text
  · exact absurd empty identifier.nonempty
  · exact ⟨rest, c, same, (identifier.plain c (by simp [same])).1⟩

theorem Segment.startsVisible (segment : Segment) : StartsVisible segment.text := by
  unfold Segment.text
  cases segment.arguments with
  | none => exact segment.identifier.startsVisible
  | some inner => exact segment.identifier.startsVisible.append _

theorem Segment.endsVisible (segment : Segment) : EndsVisible segment.text := by
  unfold Segment.text
  cases segment.arguments with
  | none => exact segment.identifier.endsVisible
  | some inner => exact ⟨segment.identifier.text ++ '<' :: inner.1, '>', by simp, rfl⟩

theorem startsVisible_path (qualifiers : List Segment) (last : Segment) : StartsVisible (path qualifiers last) := by
  cases qualifiers with
  | nil => exact last.startsVisible
  | cons first rest =>
    rw [path_cons]
    exact first.startsVisible.append _

theorem endsVisible_path (qualifiers : List Segment) (last : Segment) : EndsVisible (path qualifiers last) :=
  last.endsVisible.append _

namespace Written

theorem trim_text (written : Written) : trim written.text = written.core := by
  have starts : StartsVisible written.core := by
    unfold core
    cases written.aliased with
    | none => exact startsVisible_path _ _
    | some outside => exact outside.startsVisible.append _
  have ends : EndsVisible written.core := by
    unfold core
    cases written.aliased with
    | none => exact endsVisible_path _ _
    | some outside => exact ((endsVisible_path _ _).append [':', ':']).append outside.text
  rw [text, trim_blanks_append written.front.2, trim_append_blanks _ written.back.2, trim_eq_self starts ends]

-- Whatever is left out of a name from its first bracket on, the alias stays in front of the segments.
theorem afterLastPair_core (written : Written) {shortened : List Char → List Char}
    (keeps : ∀ text rest, '<' ∉ text → shortened (text ++ rest) = text ++ shortened rest)
    (uncolon : ':' ∉ shortened (path written.qualifiers written.last)) :
    afterLastPair ':' (shortened written.core) = shortened (path written.qualifiers written.last) := by
  unfold core
  cases written.aliased with
  | none => exact afterLastPair_eq_self fun pair => uncolon (pair.subset List.mem_cons_self)
  | some outside =>
    have colons : shortened (':' :: ':' :: path written.qualifiers written.last) =
        ':' :: ':' :: shortened (path written.qualifiers written.last) := keeps [':', ':'] _ (by decide)
    simp only [keeps outside.text _ (outside.not_mem rfl), colons]
    exact afterLastPair_append_pair outside.text uncolon

theorem simple_text (written : Written) : simple written.text = written.cut.identifier.text := by
  obtain ⟨uncolon, last⟩ := beforeFirst_path written.qualifiers written.last
  have unaliased := written.afterLastPair_core (fun _ rest unopened => beforeFirst_append unopened rest) uncolon
  rw [simple, trim_text, unaliased, last]
  exact trim_eq_self written.cut.identifier.startsVisible written.cut.identifier.endsVisible

theorem normalize_text (written : Written) :
    normalize (.ofList written.text) = .ofList written.cut.identifier.text := by
  rw [normalize, String.toList_ofList, simple_text]

end Written

end

-- An index finds what is declared under the identifier at which a name is cut, be it the last one or not.
theorem written_resolves (written : Written) :
    normalize (.ofList written.text) = .ofList written.cut.identifier.text ∧
    (normalize (.ofList written.text) = .ofList written.last.identifier.text ↔
      ∀ qualifier ∈ written.qualifiers.find? Segment.isGeneric,
        qualifier.identifier.text = written.last.identifier.text) ∧
    ∀ scripts,
      (((TypeIndex.ofScripts scripts).baseTypes (.ofList written.text)).isSome = true ↔
        ∃ script declaration, IsPart scripts (.ofList written.cut.identifier.text) script declaration) ∧
      ∀ base, base ∈ (TypeIndex.ofScripts scripts).listed (.ofList written.text) ↔
        ∃ script declaration, IsPart scripts (.ofList written.cut.identifier.text) script declaration ∧
          base ∈ declaration.declaredBases script.source := by
  refine ⟨written.normalize_text, ?_, ?_⟩
  · rw [written.normalize_text, String.ofList_inj, Written.cut, cutAt]
    cases written.qualifiers.find? Segment.isGeneric <;> simp
  · intro scripts
    have same : (TypeIndex.ofScripts scripts).baseTypes (.ofList written.text) =
        (TypeIndex.ofScripts scripts).baseTypes (.ofList written.cut.identifier.text) := by
      rw [← TypeIndex.baseTypes_normalize, written.normalize_text]
    refine ⟨?_, fun base => ?_⟩
    · rw [same, TypeIndex.known_ofScripts]
    · rw [TypeIndex.listed, same, ← TypeIndex.listed, TypeIndex.mem_listed_ofScripts]

def outerName : Identifier := ⟨"Outer".toList, by decide, by simp [isBlank, isMark]⟩

def innerName : Identifier := ⟨"Inner".toList, by decide, by simp [isBlank, isMark]⟩

theorem blank_nil : ∀ c ∈ ([] : List Char), isBlank c = true := by simp

theorem balanced_int : Balanced "int".toList :=
  .cons (by decide) (by decide) (.cons (by decide) (by decide) (.cons (by decide) (by decide) .nil))

def innerOfOuter : Written where
  front := ⟨[], blank_nil⟩
  aliased := none
  qualifiers := [⟨outerName, some ⟨"int".toList, balanced_int⟩⟩]
  last := ⟨innerName, none⟩
  back := ⟨[], blank_nil⟩

def outerScript : ParsedScript :=
  .parse "Outer.cs" "class Outer<T> \x7b class Inner : MonoBehaviour \x7b \x7d \x7d"

theorem simple_innerOfOuter :
    (¬ ∀ written : Written, normalize (.ofList written.text) = .ofList written.last.identifier.text) ∧
    String.ofList innerOfOuter.text = "Outer<int>.Inner" ∧ normalize "Outer<int>.Inner" = "Outer" ∧
    (TypeIndex.ofScripts [outerScript]).baseTypes "Inner" = some ["MonoBehaviour"] ∧
    (TypeIndex.ofScripts [outerScript]).baseTypes "Outer<int>.Inner" = some [] := by
  have spelled : String.ofList innerOfOuter.text = "Outer<int>.Inner" := by decide +kernel
  have cut : normalize "Outer<int>.Inner" = "Outer" := by decide +kernel
  refine ⟨?_, spelled, cut, by decide +kernel, by decide +kernel⟩
  intro all
  have last := all innerOfOuter
  rw [spelled, cut] at last
  revert last
  decide

end TypeName

end ScriptAudit
