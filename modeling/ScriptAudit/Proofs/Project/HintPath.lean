import ScriptAudit.Proofs.Project.EnginePath
import ScriptAudit.Proofs.Xml.Content
import ScriptAudit.Proofs.Xml.Reading

namespace ScriptAudit

def IsHintName (name : List Char) : Prop :=
  name = hintPathName ∨ ∃ front, ':' ∉ front ∧ name = front ++ ':' :: hintPathName

-- A piece of text that comes before any tag that closes a hint path.
def ComesFirst (events : List XmlEvent) (piece : List Char) : Prop :=
  ∃ between after, events = between ++ .text piece :: after ∧ ∀ name, IsHintName name → .closing name ∉ between

-- A piece of text behind a tag that opens a hint path, with none that closes one in between.
def IsHintPiece (events : List XmlEvent) (piece : List Char) : Prop :=
  ∃ before name rest, events = before ++ .opening name :: rest ∧ IsHintName name ∧ ComesFirst rest piece

variable {events raw : List XmlEvent} {event : XmlEvent} {piece : List Char}

theorem comesFirst_cons : ComesFirst (event :: events) piece ↔
    event = .text piece ∨ (∀ name, IsHintName name → event ≠ .closing name) ∧ ComesFirst events piece := by
  constructor
  · rintro ⟨between, after, parts, unclosed⟩
    rcases List.cons_eq_append_iff.mp parts with ⟨_, here⟩ | ⟨between', rfl, deeper⟩
    · exact .inl (List.cons.inj here).1.symm
    · refine .inr ⟨fun name named same => ?_, between', after, deeper, fun name named closed => ?_⟩
      · exact unclosed name named (same ▸ List.mem_cons_self)
      · exact unclosed name named (List.mem_cons_of_mem _ closed)
  · rintro (rfl | ⟨first, between, after, rfl, others⟩)
    · exact ⟨[], events, rfl, nofun⟩
    · refine ⟨event :: between, after, rfl, fun name named closed => ?_⟩
      cases List.mem_cons.mp closed with
      | inl here => exact first name named here.symm
      | inr later => exact others name named later

theorem isHintPiece_cons : IsHintPiece (event :: events) piece ↔
    (∃ name, event = .opening name ∧ IsHintName name ∧ ComesFirst events piece) ∨ IsHintPiece events piece := by
  constructor
  · rintro ⟨before, name, rest, parts, named, first⟩
    rcases List.cons_eq_append_iff.mp parts with ⟨_, here⟩ | ⟨before', rfl, deeper⟩
    · obtain ⟨rfl, rfl⟩ := List.cons.inj here
      exact .inl ⟨name, rfl, named, first⟩
    · exact .inr ⟨before', name, rest, deeper, named, first⟩
  · rintro (⟨name, rfl, named, first⟩ | ⟨before, name, rest, rfl, named, first⟩)
    · exact ⟨[], name, events, rfl, named, first⟩
    · exact ⟨event :: before, name, rest, rfl, named, first⟩

theorem mapM_eq_some_iff {α β : Type} {read : α → Option β} {items : List α} {results : List β} :
    items.mapM read = some results ↔
      (∀ item ∈ items, (read item).isSome = true) ∧ items.filterMap read = results := by
  induction items generalizing results with
  | nil => simp
  | cons item rest ih =>
    cases first : read item with
    | none => simp [first]
    | some result => simp [first, List.mapM_cons, Option.bind_eq_some_iff, ih, and_assoc]

-- An element with all of its content in one piece of text, and beside it no more than comments and instructions.
inductive IsUnbroken : List XmlEvent → Prop where
  | empty {inner : List XmlEvent} (silent : ∀ event ∈ inner, event = .other) : IsUnbroken inner
  | piece {front back : List XmlEvent} {content : List Char} (before : ∀ event ∈ front, event = .other)
      (behind : ∀ event ∈ back, event = .other) : IsUnbroken (front ++ .text content :: back)

def HasUnbrokenHintPaths (raw : List XmlEvent) : Prop :=
  ∀ name inner, IsHintName name → Xml.IsElement raw name inner → IsUnbroken inner

theorem IsHintPiece.exists_element (stands : IsHintPiece raw piece) (balanced : Xml.Balanced raw) :
    ∃ name inner, IsHintName name ∧ Xml.IsElement raw name inner ∧ .text piece ∈ inner := by
  obtain ⟨before, name, _, parts, named, between, after, rfl, unclosed⟩ := stands
  obtain ⟨inner, element, inside⟩ := balanced.exists_element parts (unclosed name named) rfl
  exact ⟨name, inner, named, element, inside⟩

namespace XmlReader

variable (reader : XmlReader)

def LeadsToEngine (piece : List Char) : Prop := ∃ path ∈ reader.unescape piece, isEngineHintPath path = true

def HasEngineHintPath (raw : List XmlEvent) : Prop :=
  ∃ name inner content, IsHintName name ∧ Xml.IsElement raw name inner ∧
    reader.characterContent inner = some content ∧ isEngineHintPath content = true

variable {reader} {xml : List Char} {isOpen : Bool}

theorem Lawful.isHint_iff (laws : reader.Lawful) (name : List Char) : reader.isHint name = true ↔ IsHintName name := by
  unfold isHint
  rw [beq_iff_eq]
  constructor
  · intro same
    by_cases colon : ':' ∈ name
    · obtain ⟨front, rest, parts, plain⟩ := List.eq_append_cons_of_mem colon
      rw [parts, laws.localName_prefixed front rest plain] at same
      exact .inr ⟨front, plain, same ▸ parts⟩
    · rw [laws.localName_plain name colon] at same
      exact .inl same
  · rintro (rfl | ⟨front, plain, rfl⟩)
    · exact laws.localName_plain hintPathName (by decide +kernel)
    · exact laws.localName_prefixed front hintPathName plain

-- Reading collects text from the start on if a hint path is open there, and else from the first tag on that opens one.
theorem Lawful.mem_hintPieces (laws : reader.Lawful) : piece ∈ reader.hintPieces isOpen events ↔
    isOpen = true ∧ ComesFirst events piece ∨ IsHintPiece events piece := by
  induction events generalizing isOpen with
  | nil => simp [hintPieces, ComesFirst, IsHintPiece]
  | cons event rest ih =>
    rw [comesFirst_cons, isHintPiece_cons]
    cases event with
    | opening name =>
      rw [hintPieces, ih, Bool.or_eq_true, laws.isHint_iff]
      simp [or_and_right, or_assoc]
    | closing name =>
      have kept : (!reader.isHint name) = true ↔
          ∀ other, IsHintName other → XmlEvent.closing name ≠ .closing other := by
        rw [Bool.not_eq_true', ← Bool.not_eq_true, laws.isHint_iff]
        constructor
        · intro unnamed other named same
          cases same
          exact unnamed named
        · intro apart named
          exact apart name named rfl
      rw [hintPieces, ih, Bool.and_eq_true, kept]
      simp [and_assoc]
    | text content =>
      cases isOpen with
      | true => simp [hintPieces, ih, or_assoc, eq_comm]
      | false => simp [hintPieces, ih]
    | emptyElement _ | characterData _ | other => simp [hintPieces, ih]

theorem passedOn_hintPieces (passed : Xml.PassedOn raw events) :
    Xml.PassedOn ((reader.hintPieces isOpen raw).map .text) ((reader.hintPieces isOpen events).map .text) := by
  induction passed generalizing isOpen with
  | nil => exact .nil
  | same event _ ih =>
    cases event with
    | text content =>
      cases isOpen with
      | true => exact .same _ ih
      | false => exact ih
    | opening _ | closing _ | emptyElement _ | characterData _ | other => exact ih
  | text left _ ih =>
    cases isOpen with
    | true => exact .text left ih
    | false => exact ih
  | blank blank _ ih =>
    cases isOpen with
    | true => exact .blank blank ih
    | false => exact ih

theorem exists_whole (passed : Xml.PassedOn raw events) (collected : piece ∈ reader.hintPieces isOpen events) :
    ∃ whole ∈ reader.hintPieces isOpen raw, Xml.LeftOf whole piece := by
  obtain ⟨whole, stands, left⟩ := (passedOn_hintPieces passed).exists_whole (List.mem_map_of_mem collected)
  exact ⟨whole, by simpa using stands, left⟩

theorem blank_or_exists_left {whole : List Char} (passed : Xml.PassedOn raw events)
    (stands : whole ∈ reader.hintPieces isOpen raw) :
    (∀ c ∈ whole, Xml.isBlank c = true) ∨ ∃ piece ∈ reader.hintPieces isOpen events, Xml.LeftOf whole piece := by
  refine ((passedOn_hintPieces passed).blank_or_exists_left (List.mem_map_of_mem stands)).imp_right fun kept => ?_
  obtain ⟨piece, collected, left⟩ := kept
  exact ⟨piece, by simpa using collected, left⟩

theorem Lawful.isSome_unescape_leftOf (laws : reader.Lawful) {whole : List Char} (left : Xml.LeftOf whole piece) :
    (reader.unescape whole).isSome = (reader.unescape piece).isSome := by
  obtain ⟨front, back, _, _, same⟩ := laws.unescape_leftOf left
  rw [same, Option.isSome_map]

theorem Lawful.leadsToEngine_leftOf (laws : reader.Lawful) {whole : List Char} (left : Xml.LeftOf whole piece) :
    reader.LeadsToEngine whole ↔ reader.LeadsToEngine piece := by
  obtain ⟨front, back, before, behind, same⟩ := laws.unescape_leftOf left
  unfold LeadsToEngine
  rw [same]
  cases reader.unescape piece with
  | none => simp
  | some path => simp [isEngineHintPath_blanks before behind path]

theorem Lawful.not_leadsToEngine_blank (laws : reader.Lawful) (blank : ∀ c ∈ piece, Xml.isBlank c = true) :
    ¬ reader.LeadsToEngine piece := by
  have left : Xml.LeftOf piece [] := ⟨piece, [], blank, nofun, by simp⟩
  rw [laws.leadsToEngine_leftOf left]
  rintro ⟨path, said, engine⟩
  rw [laws.unescape_nil] at said
  cases said
  revert engine
  decide +kernel

theorem referencesEngine_iff_pieces (complete : (reader.read xml).isComplete = true) :
    reader.referencesEngine xml = true ↔
      (∀ piece ∈ reader.hintPieces false (reader.read xml).events, (reader.unescape piece).isSome = true) ∧
        ∃ piece ∈ reader.hintPieces false (reader.read xml).events, reader.LeadsToEngine piece := by
  have paths : reader.hintPaths xml = (reader.hintPieces false (reader.read xml).events).mapM reader.unescape := by
    unfold hintPaths
    rw [if_pos complete]
  rw [referencesEngine, paths]
  cases all : (reader.hintPieces false (reader.read xml).events).mapM reader.unescape with
  | none =>
    refine iff_of_false nofun ?_
    rintro ⟨known, _⟩
    cases all.symm.trans (mapM_eq_some_iff.mpr ⟨known, rfl⟩)
  | some results =>
    obtain ⟨known, rfl⟩ := mapM_eq_some_iff.mp all
    rw [and_iff_right known, List.any_eq_true]
    constructor
    · rintro ⟨path, listed, engine⟩
      obtain ⟨piece, collected, said⟩ := List.mem_filterMap.mp listed
      exact ⟨piece, collected, path, said, engine⟩
    · rintro ⟨piece, collected, path, said, engine⟩
      exact ⟨path, List.mem_filterMap.mpr ⟨piece, collected, said⟩, engine⟩

-- What a reader takes away from a document changes neither which entities are known nor where a text leads.
theorem Lawful.referencesEngine_iff (laws : reader.Lawful) (complete : (reader.read xml).isComplete = true)
    (passed : Xml.PassedOn raw (reader.read xml).events) : reader.referencesEngine xml = true ↔
      (∀ piece, IsHintPiece raw piece → (reader.unescape piece).isSome = true) ∧
        ∃ piece, IsHintPiece raw piece ∧ reader.LeadsToEngine piece := by
  have collected (piece : List Char) : piece ∈ reader.hintPieces false raw ↔ IsHintPiece raw piece := by
    simp [laws.mem_hintPieces]
  simp only [← collected]
  rw [referencesEngine_iff_pieces complete]
  refine and_congr ⟨?_, ?_⟩ ⟨?_, ?_⟩
  · intro known whole stands
    cases blank_or_exists_left passed stands with
    | inl blank =>
      rw [laws.unescape_blanks blank]
      rfl
    | inr kept =>
      obtain ⟨piece, listed, left⟩ := kept
      rw [laws.isSome_unescape_leftOf left]
      exact known piece listed
  · intro known piece listed
    obtain ⟨whole, stands, left⟩ := exists_whole passed listed
    rw [← laws.isSome_unescape_leftOf left]
    exact known whole stands
  · rintro ⟨piece, listed, leads⟩
    obtain ⟨whole, stands, left⟩ := exists_whole passed listed
    exact ⟨whole, stands, (laws.leadsToEngine_leftOf left).mpr leads⟩
  · rintro ⟨whole, stands, leads⟩
    cases blank_or_exists_left passed stands with
    | inl blank => exact absurd leads (laws.not_leadsToEngine_blank blank)
    | inr kept =>
      obtain ⟨piece, listed, left⟩ := kept
      exact ⟨piece, listed, (laws.leadsToEngine_leftOf left).mp leads⟩

theorem HasEngineHintPath.of_piece (formed : reader.WellFormed raw) (stands : IsHintPiece raw piece)
    (leads : reader.LeadsToEngine piece) : reader.HasEngineHintPath raw := by
  obtain ⟨path, said, engine⟩ := leads
  obtain ⟨name, inner, named, element, inside⟩ := stands.exists_element formed.balanced
  obtain ⟨content, read, within⟩ := reader.exists_characterContent fun own member =>
    formed.decodes own (element.subset member)
  exact ⟨name, inner, content, named, element, read, isEngineHintPath_of_infix (within piece path inside said) engine⟩

theorem characterContent_silent {front back : List XmlEvent} (silent : ∀ event ∈ front, event = .other) :
    reader.characterContent (front ++ back) = reader.characterContent back := by
  induction front with
  | nil => rfl
  | cons event rest ih =>
    obtain ⟨rfl, others⟩ := List.forall_mem_cons.mp silent
    exact ih others

theorem exists_piece_of_isUnbroken {inner : List XmlEvent} {content : List Char} (unbroken : IsUnbroken inner)
    (read : reader.characterContent inner = some content) (engine : isEngineHintPath content = true) :
    ∃ front piece back, inner = front ++ .text piece :: back ∧ (∀ event ∈ front, event = .other) ∧
      reader.unescape piece = some content := by
  cases unbroken with
  | empty silent =>
    rw [← List.append_nil inner, characterContent_silent silent] at read
    cases read
    exact absurd engine (by decide +kernel)
  | @piece front back piece before behind =>
    refine ⟨front, piece, back, rfl, before, ?_⟩
    have last : reader.characterContent back = some [] := by
      rw [← List.append_nil back, characterContent_silent behind]
      rfl
    rw [characterContent_silent before, characterContent, last] at read
    simpa using read

theorem HasEngineHintPath.exists_piece (found : reader.HasEngineHintPath raw) (unbroken : HasUnbrokenHintPaths raw) :
    ∃ piece, IsHintPiece raw piece ∧ reader.LeadsToEngine piece := by
  obtain ⟨name, inner, content, named, element, read, engine⟩ := found
  obtain ⟨front, piece, back, whole, silent, said⟩ :=
    exists_piece_of_isUnbroken (unbroken name inner named element) read engine
  refine ⟨piece, ?_, content, said, engine⟩
  cases element with
  | @paired before _ after _ parts =>
    subst whole
    refine ⟨before, name, _, parts, named, front, _, List.append_assoc .., ?_⟩
    intro name' _ closed
    cases silent _ closed
  | alone => simp at whole

-- One piece of text decides, and a fault anywhere in the file decides against it.
theorem engineReferences_by_piece (laws : reader.Lawful) (tree : FileTree) (path : String) :
    (tree.readText path = none → reader.hasEngineReferences tree path = false) ∧
    ∀ xml, tree.readText path = some xml →
      ((reader.read xml).isComplete = false → reader.hasEngineReferences tree path = false) ∧
      ((reader.read xml).isComplete = true → ∀ raw, Xml.PassedOn raw (reader.read xml).events →
        (reader.hasEngineReferences tree path = true ↔
          (∀ piece, IsHintPiece raw piece → (reader.unescape piece).isSome = true) ∧
            ∃ piece, IsHintPiece raw piece ∧ reader.LeadsToEngine piece) ∧
        (reader.WellFormed raw → reader.hasEngineReferences tree path = true → reader.HasEngineHintPath raw) ∧
        (reader.WellFormed raw → HasUnbrokenHintPaths raw →
          (reader.hasEngineReferences tree path = true ↔ reader.HasEngineHintPath raw))) := by
  refine ⟨fun unread => by rw [hasEngineReferences, unread], ?_⟩
  intro xml read
  have decided : reader.hasEngineReferences tree path = reader.referencesEngine xml := by
    rw [hasEngineReferences, read]
  rw [decided]
  refine ⟨fun faulty => ?_, fun complete raw passed => ?_⟩
  · rw [referencesEngine, hintPaths, faulty]
    rfl
  have exact_piece := laws.referencesEngine_iff complete passed
  have sound : reader.WellFormed raw → reader.referencesEngine xml = true → reader.HasEngineHintPath raw := by
    intro formed found
    obtain ⟨_, piece, stands, leads⟩ := exact_piece.mp found
    exact .of_piece formed stands leads
  refine ⟨exact_piece, sound, fun formed unbroken => ⟨sound formed, fun found => ?_⟩⟩
  refine exact_piece.mpr ⟨fun piece stands => ?_, found.exists_piece unbroken⟩
  obtain ⟨name, inner, _, element, inside⟩ := stands.exists_element formed.balanced
  exact formed.decodes piece (element.subset inside)

end XmlReader

namespace FileTree

def single (name text : String) : FileTree := ⟨[([name], .file (Text.Utf8.encode text))]⟩

theorem readText_single (name text : String) (plain : PathStep.ofPath name = some [.into name])
    (decodes : Text.Utf8.decode (Text.Utf8.encode text) = some text.toList) :
    (single name text).readText name = some text.toList := by
  have placed : entry? (single name text) [name] = some (.file (Text.Utf8.encode text)) := by simp [single, entry?]
  have found : (single name text).resolve name = .ok [name] := by
    have first : entry? (single name text) [] = some .directory := rfl
    simp [resolve, plain, follow, first, placed]
  simp [readText, read, stat, found, placed, decodes, bind, Except.bind, pure, Except.pure]

end FileTree

namespace XmlReader

open FileTree (single readText_single)

def prefixedHint : List XmlEvent :=
  [.opening "P".toList, .opening "a:HintPath".toList, .text " Unity&#x45;ngine.dll ".toList,
    .closing "a:HintPath".toList, .closing "P".toList]

theorem isHintName_prefixed : IsHintName "a:HintPath".toList := .inr ⟨['a'], by decide, by decide +kernel⟩

def passedHint : List XmlEvent :=
  [.opening "P".toList, .opening "a:HintPath".toList, .text "Unity&#x45;ngine.dll".toList,
    .closing "a:HintPath".toList, .closing "P".toList]

theorem passedOn_prefixedHint : Xml.PassedOn prefixedHint passedHint := by
  have left : Xml.LeftOf " Unity&#x45;ngine.dll ".toList "Unity&#x45;ngine.dll".toList := by
    refine ⟨[' '], [' '], ?_, ?_, ?_⟩
    · simp [Xml.isBlank]
    · simp [Xml.isBlank]
    · simp
  exact .same _ (.same _ (.text left (.same _ (.same _ .nil))))

theorem wellFormed_prefixedHint : Xml.reader.WellFormed prefixedHint := by
  refine ⟨.element (.element (.single rfl .nil) .nil) .nil, ?_⟩
  intro content member
  have only : content = " Unity&#x45;ngine.dll ".toList := by simpa [prefixedHint] using member
  rw [only]
  decide +kernel

theorem unbroken_prefixedHint : HasUnbrokenHintPaths prefixedHint := by
  intro name inner named element
  cases element with
  | alone => exact .empty nofun
  | paired _ parts =>
    have inside : name = "P".toList ∨ inner = [.text " Unity&#x45;ngine.dll ".toList] := by
      simp [prefixedHint, List.cons_eq_append_iff, List.append_eq_cons_iff] at parts
      rcases parts with ⟨_, root, _⟩ | ⟨_, _, _, rfl, ⟨rfl, _⟩ | ⟨_, root, _⟩⟩
      · exact .inl root
      · exact .inr rfl
      · exact .inl root
    rcases inside with rfl | rfl
    · rw [← Xml.lawful_reader.isHint_iff] at named
      exact absurd named (by decide +kernel)
    · exact @IsUnbroken.piece [] [] _ nofun nofun

def prefixedFile : String := "<P><a:HintPath> Unity&#x45;ngine.dll </a:HintPath></P>"

def tornFile : String := "<P><HintPath>UnityEngine.dll</HintPath><"

theorem engineReferences_by_piece_prefixed :
    Xml.reader.hasEngineReferences (single "App.csproj" prefixedFile) "App.csproj" = true ∧
      .text "UnityEngine.dll".toList ∈ (Xml.reader.read tornFile.toList).events ∧
        Xml.reader.hasEngineReferences (single "Torn.csproj" tornFile) "Torn.csproj" = false := by
  refine ⟨?_, by decide +kernel, ?_⟩
  · have read := readText_single "App.csproj" prefixedFile (by decide +kernel) (by decide +kernel)
    have reading : Xml.reader.read prefixedFile.toList = ⟨passedHint, true⟩ := by decide +kernel
    have complete : (Xml.reader.read prefixedFile.toList).isComplete = true := by rw [reading]
    have passed : Xml.PassedOn prefixedHint (Xml.reader.read prefixedFile.toList).events := by
      rw [reading]
      exact passedOn_prefixedHint
    have decided := ((engineReferences_by_piece Xml.lawful_reader _ _).2 _ read).2 complete prefixedHint passed
    refine (decided.2.2 wellFormed_prefixedHint unbroken_prefixedHint).mpr ?_
    refine ⟨"a:HintPath".toList, [.text " Unity&#x45;ngine.dll ".toList], " UnityEngine.dll ".toList,
      isHintName_prefixed, ?_, by decide +kernel, by decide +kernel⟩
    exact @Xml.IsElement.paired _ _ [.opening "P".toList] _ [.closing "P".toList] (.single rfl .nil) rfl
  · have read := readText_single "Torn.csproj" tornFile (by decide +kernel) (by decide +kernel)
    exact ((engineReferences_by_piece Xml.lawful_reader _ _).2 _ read).1 (by decide +kernel)

def dataFile : String := "<P><HintPath><![CDATA[UnityEngine.dll]]></HintPath></P>"

def dataHint : List XmlEvent :=
  [.opening "P".toList, .opening "HintPath".toList, .characterData "UnityEngine.dll".toList,
    .closing "HintPath".toList, .closing "P".toList]

theorem passedOn_dataHint : Xml.PassedOn dataHint dataHint :=
  .same _ (.same _ (.same _ (.same _ (.same _ .nil))))

-- Character data is no text, so that a hint path of character data alone is missed.
theorem engineReferences_misses_characterData :
    ¬ ∀ (reader : XmlReader) (tree : FileTree) (path : String) (xml : List Char) (raw : List XmlEvent),
      reader.Lawful → tree.readText path = some xml → (reader.read xml).isComplete = true →
        Xml.PassedOn raw (reader.read xml).events → reader.WellFormed raw →
          (reader.hasEngineReferences tree path = true ↔ reader.HasEngineHintPath raw) := by
  intro claimed
  have read := readText_single "App.csproj" dataFile (by decide +kernel) (by decide +kernel)
  have reading : Xml.reader.read dataFile.toList = ⟨dataHint, true⟩ := by decide +kernel
  have complete : (Xml.reader.read dataFile.toList).isComplete = true := by rw [reading]
  have passed : Xml.PassedOn dataHint (Xml.reader.read dataFile.toList).events := by
    rw [reading]
    exact passedOn_dataHint
  have formed : Xml.reader.WellFormed dataHint :=
    ⟨.element (.element (.single rfl .nil) .nil) .nil, by simp [dataHint]⟩
  have hinted : Xml.reader.HasEngineHintPath dataHint := by
    refine ⟨"HintPath".toList, [.characterData "UnityEngine.dll".toList], "UnityEngine.dll".toList,
      .inl rfl, ?_, by decide +kernel, by decide +kernel⟩
    exact @Xml.IsElement.paired _ _ [.opening "P".toList] _ [.closing "P".toList] (.single rfl .nil) rfl
  have found := (claimed _ _ _ _ dataHint Xml.lawful_reader read complete passed formed).mpr hinted
  rw [hasEngineReferences, read] at found
  revert found
  decide +kernel

end XmlReader

end ScriptAudit
