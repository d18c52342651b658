import ScriptAudit.Proofs.Text.Occurrence
import ScriptAudit.Proofs.TypeName.Written
import ScriptAudit.Syntax.Grammar.Script

namespace ScriptAudit

open Text

namespace TypeName

-- A name without the lists of arguments in it. The first argument counts the brackets that are open.
def withoutArguments : Nat → List Char → List Char
  | _, [] => []
  | 0, c :: rest => if c == '<' then withoutArguments 1 rest else c :: withoutArguments 0 rest
  | depth + 1, c :: rest =>
    if c == '<' then withoutArguments (depth + 2) rest
    else if c == '>' then withoutArguments depth rest
    else withoutArguments (depth + 1) rest

def bare (name : List Char) : List Char :=
  trim (afterLast '.' (afterLastPair ':' (withoutArguments 0 (trim name))))

def bareName (name : String) : String := String.ofList (bare name.toList)

-- Arguments of a name have nothing but white space behind them.
def ArgumentsLast (name : List Char) : Prop := withoutArguments 0 (trim name) = beforeFirst '<' (trim name)

instance (name : List Char) : Decidable (ArgumentsLast name) := inferInstanceAs (Decidable (_ = _))

theorem normalize_eq_bareName {name : String} (ends : ArgumentsLast name.toList) : normalize name = bareName name := by
  rw [normalize, simple, ← ends]
  rfl

def MentionsComponentBase (name : String) : Prop := qualifiedComponentBase.toList <:+: name.toList

theorem isComponentRoot_iff (name : String) :
    isComponentRoot name = true ↔ normalize name = componentBase ∨ MentionsComponentBase name := by
  rw [isComponentRoot, Bool.or_eq_true, beq_iff_eq, contains_iff_infix]
  rfl

section

variable {inner : List Char} {segment last : Segment} {qualifiers : List Segment}

theorem withoutArguments_balanced (balanced : Balanced inner) (depth : Nat) (rest : List Char) :
    withoutArguments (depth + 1) (inner ++ rest) = withoutArguments (depth + 1) rest := by
  induction balanced generalizing depth rest with
  | nil => rfl
  | cons opens closes _ ih => simp [withoutArguments, opens, closes, ih]
  | nested _ _ inside tail => simp [withoutArguments, inside, tail]

theorem withoutArguments_append {text : List Char} (unopened : '<' ∉ text) (rest : List Char) :
    withoutArguments 0 (text ++ rest) = text ++ withoutArguments 0 rest := by
  induction text with
  | nil => rfl
  | cons c others ih =>
    rw [List.mem_cons, not_or] at unopened
    simp [withoutArguments, Ne.symm unopened.1, ih unopened.2]

theorem withoutArguments_text (segment : Segment) (rest : List Char) :
    withoutArguments 0 (segment.text ++ rest) = segment.identifier.text ++ withoutArguments 0 rest := by
  have unopened : '<' ∉ segment.identifier.text := segment.identifier.not_mem rfl
  unfold Segment.text
  cases segment.arguments with
  | none => exact withoutArguments_append unopened rest
  | some inner =>
    rw [List.append_assoc, withoutArguments_append unopened]
    simp [withoutArguments, withoutArguments_balanced inner.2]

theorem withoutArguments_path (qualifiers : List Segment) (last : Segment) :
    ':' ∉ withoutArguments 0 (path qualifiers last) ∧
      afterLast '.' (withoutArguments 0 (path qualifiers last)) = last.identifier.text := by
  induction qualifiers with
  | nil =>
    have whole := withoutArguments_text last []
    rw [withoutArguments, List.append_nil, List.append_nil] at whole
    have alone : path [] last = last.text := rfl
    rw [alone, whole]
    exact ⟨last.identifier.not_mem rfl, afterLast_eq_self (last.identifier.not_mem rfl)⟩
  | cons first rest ih =>
    have dotted : withoutArguments 0 ('.' :: path rest last) = '.' :: withoutArguments 0 (path rest last) := rfl
    rw [path_cons, withoutArguments_text, dotted, afterLast_append_cons]
    refine ⟨?_, ih.2⟩
    have unaliased : ':' ∉ first.identifier.text := first.identifier.not_mem rfl
    simp [unaliased, ih.1]

theorem withoutArguments_eq_beforeFirst (plain : ∀ qualifier ∈ qualifiers, qualifier.isGeneric = false)
    (last : Segment) : withoutArguments 0 (path qualifiers last) = beforeFirst '<' (path qualifiers last) := by
  induction qualifiers with
  | nil =>
    have alone : path [] last = last.text ++ [] := (List.append_nil _).symm
    rw [alone, withoutArguments_text, last.beforeFirst_text]
    cases last.isGeneric <;> rfl
  | cons first rest ih =>
    obtain ⟨here, later⟩ := List.forall_mem_cons.mp plain
    have dotted : withoutArguments 0 ('.' :: path rest last) = '.' :: withoutArguments 0 (path rest last) := rfl
    have dotted' : beforeFirst '<' ('.' :: path rest last) = '.' :: beforeFirst '<' (path rest last) := rfl
    rw [path_cons, withoutArguments_text, first.beforeFirst_text, here, dotted, ih later, if_neg (by simp), dotted']

end

namespace Written

theorem bare_text (written : Written) : bare written.text = written.last.identifier.text := by
  obtain ⟨uncolon, last⟩ := withoutArguments_path written.qualifiers written.last
  have unaliased := written.afterLastPair_core (fun _ rest unopened => withoutArguments_append unopened rest) uncolon
  rw [bare, trim_text, unaliased, last]
  exact trim_eq_self written.last.identifier.startsVisible written.last.identifier.endsVisible

theorem argumentsLast_text {written : Written} (plain : ∀ qualifier ∈ written.qualifiers, qualifier.isGeneric = false) :
    ArgumentsLast written.text := by
  have segments := withoutArguments_eq_beforeFirst plain written.last
  rw [ArgumentsLast, trim_text, core]
  cases written.aliased with
  | none => exact segments
  | some outside =>
    have unopened : '<' ∉ outside.text := outside.not_mem rfl
    simp only [withoutArguments_append unopened, beforeFirst_append unopened]
    exact congrArg (fun rest => outside.text ++ ':' :: ':' :: rest) segments

end Written

end TypeName

def Kind.isType : Kind → Bool
  | .type | .identifier | .genericName | .qualifiedName => true
  | _ => false

namespace SyntaxNode

-- All that stands in the base lists of a declaration: types, and the comments and lists of arguments between them.
def baseNodes (node : SyntaxNode) : List SyntaxNode :=
  (node.children.filter (·.kind == .baseList)).flatMap fun list => (list.children.filter isNamed).map baseOfEntry

def writtenBase (source : List Char) (node : SyntaxNode) : Option String :=
  let text := trim (node.text source)
  if text.isEmpty then none else some (String.ofList text)

def typeBases (node : SyntaxNode) (source : List Char) : List String :=
  (node.baseNodes.filter (·.kind.isType)).filterMap (writtenBase source)

def strayBases (node : SyntaxNode) (source : List Char) : List String :=
  (node.baseNodes.filter fun base => !base.kind.isType).filterMap (writtenBase source)

theorem declaredBases_eq (node : SyntaxNode) (source : List Char) :
    node.declaredBases source = node.baseNodes.filterMap (writtenBase source) := by
  unfold declaredBases baseNodes
  rw [List.filterMap_flatMap]
  simp only [List.filterMap_map]
  rfl

theorem mem_declaredBases {node : SyntaxNode} {source : List Char} {base : String} :
    base ∈ node.declaredBases source ↔ base ∈ node.typeBases source ∨ base ∈ node.strayBases source := by
  rw [declaredBases_eq, typeBases, strayBases, ← List.mem_append, ← List.filterMap_append]
  simp only [List.mem_filterMap]
  refine exists_congr fun entry => and_congr_left fun _ => ?_
  cases type : entry.kind.isType <;> simp [type]

end SyntaxNode

-- Where types lead that are listed as bases: from a declaration to every declaration of a type that it lists, and on.
inductive Ancestor (scripts : List ParsedScript) : List Char → SyntaxNode → List Char → SyntaxNode → Prop where
  | refl (source : List Char) (declaration : SyntaxNode) : Ancestor scripts source declaration source declaration
  | step {source source' : List Char} {declaration ancestor next : SyntaxNode} {base : String} {script : ParsedScript}
      (listed : base ∈ declaration.typeBases source) (part : IsPart scripts base script next)
      (further : Ancestor scripts script.source next source' ancestor) :
      Ancestor scripts source declaration source' ancestor

variable {scripts : List ParsedScript} {bases passed : List String} {source : List Char} {declaration : SyntaxNode}

-- What a declaration lists that makes it a component by itself, or that is no type and is taken for one.
def ListsRoot (scripts : List ParsedScript) (source : List Char) (declaration : SyntaxNode) : Prop :=
  (∃ last ∈ declaration.typeBases source, TypeName.isComponentRoot last = true) ∨
    ∃ stray ∈ declaration.strayBases source, TypeName.isComponentRoot stray = true ∨
      (TypeIndex.ofScripts scripts).hierarchy.isComponent stray = true

def LeadsToRoot (scripts : List ParsedScript) (source : List Char) (declaration : SyntaxNode) : Prop :=
  ∃ source' ancestor, Ancestor scripts source declaration source' ancestor ∧ ListsRoot scripts source' ancestor

theorem LeadsToRoot.of_root {base : String} (listed : base ∈ declaration.declaredBases source)
    (root : TypeName.isComponentRoot base = true) : LeadsToRoot scripts source declaration := by
  refine ⟨source, declaration, .refl source declaration, ?_⟩
  cases SyntaxNode.mem_declaredBases.mp listed with
  | inl type => exact .inl ⟨base, type, root⟩
  | inr stray => exact .inr ⟨base, stray, .inl root⟩

theorem LeadsToRoot.of_part {base : String} {script : ParsedScript} {next : SyntaxNode}
    (listed : base ∈ declaration.declaredBases source) (part : IsPart scripts base script next)
    (leads : LeadsToRoot scripts script.source next)
    (component : (TypeIndex.ofScripts scripts).hierarchy.isComponent base = true) :
    LeadsToRoot scripts source declaration := by
  cases SyntaxNode.mem_declaredBases.mp listed with
  | inl type =>
    obtain ⟨source', ancestor, further, lists⟩ := leads
    exact ⟨source', ancestor, .step type part further, lists⟩
  | inr stray => exact ⟨source, declaration, .refl source declaration, .inr ⟨base, stray, .inr component⟩⟩

-- The bases that an index lists for a name come from the declarations that are parts of the type.
theorem TypeHierarchy.Climb.leadsToRoot (climb : (TypeIndex.ofScripts scripts).hierarchy.Climb bases passed) :
    ∃ first ∈ bases, ∀ source (declaration : SyntaxNode), first ∈ declaration.declaredBases source →
      LeadsToRoot scripts source declaration := by
  induction climb with
  | @root base bases listed root => exact ⟨base, listed, fun _ _ here => .of_root here root⟩
  | @up base bases above passed listed found rest ih =>
    obtain ⟨first, higher, leads⟩ := ih
    have found : (TypeIndex.ofScripts scripts).baseTypes base = some above :=
      (TypeIndex.baseTypes_normalize _ base).symm.trans found
    have member : first ∈ (TypeIndex.ofScripts scripts).listed base := by
      rw [TypeIndex.listed, found]
      exact higher
    obtain ⟨script, next, part, declared⟩ := TypeIndex.mem_listed_ofScripts.mp member
    have component := (TypeIndex.isComponent_iff_climb _ base).mpr ⟨above, found, passed, rest⟩
    exact ⟨base, listed, fun _ _ here => .of_part here part (leads script.source next declared) component⟩

-- What stands in a base list and is no type is left aside where it is taken for the base class or for a component, and
-- so is what a name is whose arguments are not last.
theorem component_has_base (scripts : List ParsedScript) :
    (∀ source declaration,
      isComponentDeclaration (TypeIndex.ofScripts scripts).hierarchy source declaration = true →
        ∃ source' ancestor, Ancestor scripts source declaration source' ancestor ∧
          ((∃ last ∈ ancestor.typeBases source', TypeName.MentionsComponentBase last ∨
              TypeName.normalize last = TypeName.componentBase ∧
                (TypeName.ArgumentsLast last.toList → TypeName.bareName last = TypeName.componentBase)) ∨
            ∃ stray ∈ ancestor.strayBases source', TypeName.isComponentRoot stray = true ∨
              (TypeIndex.ofScripts scripts).hierarchy.isComponent stray = true)) ∧
    ∀ written : TypeName.Written,
      TypeName.bareName (.ofList written.text) = .ofList written.last.identifier.text ∧
        ((∀ qualifier ∈ written.qualifiers, qualifier.isGeneric = false) → TypeName.ArgumentsLast written.text) := by
  refine ⟨?_, fun written => ⟨?_, TypeName.Written.argumentsLast_text⟩⟩
  · intro source declaration component
    obtain ⟨passed, climb, _⟩ := (isComponentDeclaration_iff _ source declaration).mp component
    obtain ⟨first, listed, leads⟩ := climb.leadsToRoot
    obtain ⟨source', ancestor, chain, lists⟩ := leads source declaration listed
    refine ⟨source', ancestor, chain, ?_⟩
    cases lists with
    | inr stray => exact .inr stray
    | inl root =>
      obtain ⟨last, type, root⟩ := root
      refine .inl ⟨last, type, ?_⟩
      cases (TypeName.isComponentRoot_iff last).mp root with
      | inl named => exact .inr ⟨named, fun ends => (TypeName.normalize_eq_bareName ends).symm.trans named⟩
      | inr mentions => exact .inl mentions
  · rw [TypeName.bareName, String.toList_ofList, written.bare_text]

def bossScript : ParsedScript :=
  .parse "Boss.cs" "class Actor<T> : MonoBehaviour \x7b \x7d class Boss : Game.Actor<int> \x7b \x7d"

def gameName : TypeName.Identifier := ⟨"Game".toList, by decide, by simp [isBlank, TypeName.isMark]⟩

def actorName : TypeName.Identifier := ⟨"Actor".toList, by decide, by simp [isBlank, TypeName.isMark]⟩

def gameActor : TypeName.Written where
  front := ⟨[], TypeName.blank_nil⟩
  aliased := none
  qualifiers := [⟨gameName, none⟩]
  last := ⟨actorName, some ⟨"int".toList, TypeName.balanced_int⟩⟩
  back := ⟨[], TypeName.blank_nil⟩

theorem exists_boss : ∃ declaration ∈ bossScript.typeDeclarations,
    declaration.declaredName bossScript.source = some "Boss" ∧
      declaration.declaredBases bossScript.source = ["Game.Actor<int>"] := by
  have shown : (some "Boss", ["Game.Actor<int>"]) ∈ bossScript.typeDeclarations.map (fun declaration =>
      (declaration.declaredName bossScript.source, declaration.declaredBases bossScript.source)) := by
    decide +kernel
  obtain ⟨declaration, declared, same⟩ := List.mem_map.mp shown
  exact ⟨declaration, declared, congrArg Prod.fst same, congrArg Prod.snd same⟩

theorem component_has_base_boss : (∃ declaration ∈ bossScript.typeDeclarations,
    declaration.declaredName bossScript.source = some "Boss" ∧
    isComponentDeclaration (TypeIndex.ofScripts [bossScript]).hierarchy bossScript.source declaration = true ∧
      ∃ source' ancestor, Ancestor [bossScript] bossScript.source declaration source' ancestor ∧
        ((∃ last ∈ ancestor.typeBases source', TypeName.MentionsComponentBase last ∨
            TypeName.normalize last = TypeName.componentBase ∧
              (TypeName.ArgumentsLast last.toList → TypeName.bareName last = TypeName.componentBase)) ∨
          ∃ stray ∈ ancestor.strayBases source', TypeName.isComponentRoot stray = true ∨
            (TypeIndex.ofScripts [bossScript]).hierarchy.isComponent stray = true)) ∧
    String.ofList gameActor.text = "Game.Actor<int>" ∧
    (∀ qualifier ∈ gameActor.qualifiers, qualifier.isGeneric = false) ∧ TypeName.ArgumentsLast gameActor.text := by
  obtain ⟨boss, declared, named, bases⟩ := exists_boss
  have found : (TypeIndex.ofScripts [bossScript]).hierarchy.baseTypes (TypeName.normalize "Game.Actor<int>") =
      some ["MonoBehaviour"] := by
    decide +kernel
  have climb : (TypeIndex.ofScripts [bossScript]).hierarchy.Climb ["Game.Actor<int>"] ["Game.Actor<int>"] :=
    .up (List.mem_singleton_self _) found (.root (List.mem_singleton_self _) (by decide +kernel))
  have component : isComponentDeclaration (TypeIndex.ofScripts [bossScript]).hierarchy bossScript.source boss =
      true := by
    refine (isComponentDeclaration_iff _ _ _).mpr ⟨["Game.Actor<int>"], ?_, ?_⟩
    · rw [bases]
      exact climb
    · rw [named]
      simp only [Option.mem_some_iff, forall_eq', List.mem_singleton, forall_eq]
      decide +kernel
  obtain ⟨chains, names⟩ := component_has_base [bossScript]
  have plain : ∀ qualifier ∈ gameActor.qualifiers, qualifier.isGeneric = false := by
    simp [gameActor, TypeName.Segment.isGeneric]
  exact ⟨⟨boss, declared, named, component, chains bossScript.source boss component⟩, by decide +kernel, plain,
    (names gameActor).2 plain⟩

-- The base class stands in the argument of a base, which mentions it.
def bagScript : ParsedScript :=
  .parse "Bag.cs" "class Bag : List<UnityEngine.MonoBehaviour> \x7b \x7d"

theorem exists_bag : ∃ declaration, bagScript.typeDeclarations = [declaration] ∧
    declaration.declaredName bagScript.source = some "Bag" ∧
      declaration.declaredBases bagScript.source = ["List<UnityEngine.MonoBehaviour>"] := by
  apply exists_only_declaration
  decide +kernel

theorem component_by_mention_bag :
    ¬ ∀ (scripts : List ParsedScript) (script : ParsedScript) (declaration : SyntaxNode),
      script ∈ scripts → declaration ∈ script.typeDeclarations →
        isComponentDeclaration (TypeIndex.ofScripts scripts).hierarchy script.source declaration = true →
          ∃ source' ancestor, Ancestor scripts script.source declaration source' ancestor ∧
            ∃ last ∈ ancestor.typeBases source', TypeName.bareName last = TypeName.componentBase := by
  obtain ⟨bag, only, named, bases⟩ := exists_bag
  have component : isComponentDeclaration (TypeIndex.ofScripts [bagScript]).hierarchy bagScript.source bag = true := by
    refine (isComponentDeclaration_iff _ _ _).mpr ⟨[], ?_, by simp⟩
    rw [bases]
    exact .root (List.mem_singleton_self _) (by decide +kernel)
  have lists (base : String) (type : base ∈ bag.typeBases bagScript.source) :
      base = "List<UnityEngine.MonoBehaviour>" := by
    have listed := SyntaxNode.mem_declaredBases.mpr (.inl type)
    rw [bases] at listed
    exact List.mem_singleton.mp listed
  intro claimed
  obtain ⟨source', ancestor, chain, last, listed, bare⟩ := claimed [bagScript] bagScript bag (by simp) (by simp [only])
    component
  cases chain with
  | refl =>
    rw [lists last listed] at bare
    revert bare
    decide +kernel
  | step here part further =>
    obtain ⟨member, declared, name, spelled, alike⟩ := part
    rw [List.mem_singleton] at member
    subst member
    rw [only, List.mem_singleton] at declared
    subst declared
    rw [named] at spelled
    cases spelled
    rw [lists _ here] at alike
    revert alike
    decide +kernel

end ScriptAudit
