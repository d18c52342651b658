import ScriptAudit.Catalog.Basic
import ScriptAudit.Proofs.Text.Ascii
import ScriptAudit.Proofs.Text.Word

namespace ScriptAudit

open Text

-- An id as it is put together: the analyzers' mark in letters of either case, and behind it a decimal with at most one
-- plus in front and white space around the two.
structure NumberedId where
  mark : List Char
  front : List Char
  sign : List Char
  digits : List Char
  back : List Char
  marked : foldAscii mark = ['u', 'n', 't']
  before_blank : ∀ c ∈ front, isBlank c = true
  signed : sign = [] ∨ sign = ['+']
  nonempty : digits ≠ []
  plain : ∀ c ∈ digits, c.isDigit = true
  behind_blank : ∀ c ∈ back, isBlank c = true

namespace NumberedId

def text (written : NumberedId) : List Char :=
  written.mark ++ (written.front ++ ((written.sign ++ written.digits) ++ written.back))

def number (written : NumberedId) : Nat := Nat.ofDigitChars 10 written.digits 0

theorem decimal (written : NumberedId) : Decimal written.digits written.number :=
  ⟨written.nonempty, written.plain, rfl⟩

theorem trim_behind_mark (written : NumberedId) :
    trim (written.front ++ ((written.sign ++ written.digits) ++ written.back)) = written.sign ++ written.digits := by
  have starts : StartsVisible (written.sign ++ written.digits) := by
    rcases written.signed with bare | plus
    · rw [bare]
      exact written.decimal.startsVisible
    · rw [plus]
      exact ⟨'+', written.digits, rfl, by decide⟩
  rw [trim_blanks_append written.before_blank, trim_append_blanks _ written.behind_blank,
    trim_eq_self starts (written.decimal.endsVisible.append _)]

end NumberedId

theorem hasMark_iff {mark id : List Char} (short : byteSize mark = 3) :
    hasMark mark id = true ↔ ∃ head rest, id = head ++ rest ∧ foldAscii head = foldAscii mark := by
  unfold hasMark
  constructor
  · intro found
    split at found
    · cases found
    · next head taken =>
      obtain ⟨rest, same, _⟩ := append_of_takeBytes taken
      exact ⟨head, rest, same, by simpa [sameFolded] using found⟩
  · rintro ⟨head, rest, rfl, same⟩
    have size : byteSize head = 3 := by rw [← byteSize_foldAscii, same, byteSize_foldAscii, short]
    have taken : takeBytes 3 (head ++ rest) = some head := by
      rw [← size]
      exact takeBytes_append head rest
    rw [taken]
    simp [sameFolded, same]

theorem drop_mark {head rest : List Char} (same : foldAscii head = ['u', 'n', 't']) :
    (head ++ rest).drop 3 = rest := by
  have length : head.length = 3 := by
    have folded := congrArg List.length same
    rwa [foldAscii, List.length_map] at folded
  rw [← length, List.drop_left]

theorem ruleNumber_eq_some_iff {id : String} {n : UInt32} :
    ruleNumber id = some n ↔ ∃ written : NumberedId, written.text = id.toList ∧ written.number = n.toNat := by
  have short : byteSize analyzerMark = 3 := by decide
  unfold ruleNumber
  constructor
  · intro read
    split at read
    · next marked =>
      obtain ⟨mark, rest, parts, folded⟩ := (hasMark_iff short).mp marked
      rw [parts, drop_mark folded] at read
      obtain ⟨sign, digits, word, signed, written⟩ := readWord_eq_some_iff.mp read
      obtain ⟨front, back, whole, before, behind⟩ := exists_blanks_trim rest
      rw [word] at whole
      refine ⟨⟨mark, front, sign, digits, back, folded, before, signed, written.nonempty, written.plain, behind⟩,
        ?_, written.value⟩
      rw [parts, whole]
      rfl
    · cases read
  · rintro ⟨written, same, value⟩
    have marked : hasMark analyzerMark id.toList = true :=
      (hasMark_iff short).mpr ⟨_, _, same.symm, written.marked⟩
    rw [if_pos marked, ← same, NumberedId.text, drop_mark written.marked, written.trim_behind_mark]
    exact readWord_eq_some_iff.mpr ⟨_, _, rfl, written.signed, value ▸ written.decimal⟩

namespace DiagnosticCategory

def Holds (category : DiagnosticCategory) (n : UInt32) : Prop :=
  ∃ bounds ∈ category.range, bounds.1 ≤ n ∧ n ≤ bounds.2

theorem holds_iff {category : DiagnosticCategory} {n : UInt32} : category.Holds n ↔
    match category with
    | .all => False
    | .messages => 1 ≤ n.toNat ∧ n.toNat ≤ 15
    | .nullChecking => 16 ≤ n.toNat ∧ n.toNat ≤ 25
    | .performance => 26 ≤ n.toNat ∧ n.toNat ≤ 35
    | .bestPractices => 36 ≤ n.toNat := by
  have bounded := n.toNat_lt
  cases category <;> simp [Holds, range, UInt32.le_iff_toNat_le]
  omega

theorem Holds.positive {category : DiagnosticCategory} {n : UInt32} (held : category.Holds n) : 1 ≤ n := by
  rw [holds_iff] at held
  rw [UInt32.le_iff_toNat_le, UInt32.toNat_one]
  cases category with
  | all => cases held
  | messages | nullChecking | performance | bestPractices => omega

theorem Holds.unique {first second : DiagnosticCategory} {n : UInt32} (held : first.Holds n)
    (held' : second.Holds n) : first = second := by
  rw [holds_iff] at held held'
  cases first <;> cases second <;> simp only at held held' ⊢ <;> omega

theorem exists_holds {n : UInt32} (positive : 1 ≤ n) : ∃ category : DiagnosticCategory, category.Holds n := by
  rw [UInt32.le_iff_toNat_le, UInt32.toNat_one] at positive
  simp only [holds_iff]
  rcases Nat.lt_or_ge n.toNat 16 with low | above
  · exact ⟨.messages, positive, by omega⟩
  rcases Nat.lt_or_ge n.toNat 26 with low | above'
  · exact ⟨.nullChecking, above, by omega⟩
  rcases Nat.lt_or_ge n.toNat 36 with low | above''
  · exact ⟨.performance, above', by omega⟩
  · exact ⟨.bestPractices, above''⟩

theorem Holds.ne_all {category : DiagnosticCategory} {n : UInt32} (held : category.Holds n) : category ≠ .all := by
  rintro rfl
  exact holds_iff.mp held

end DiagnosticCategory

theorem classifies_iff {id : String} {category : DiagnosticCategory} (numbered : category ≠ .all) :
    classifies id category = true ↔ ∃ n ∈ ruleNumber id, category.Holds n := by
  unfold classifies DiagnosticCategory.Holds
  cases bounds : category.range with
  | none => cases category <;> first | exact absurd rfl numbered | cases bounds
  | some bounds => cases ruleNumber id <;> simp

def HasNumber (id : String) : Prop := ∃ n ∈ ruleNumber id, 1 ≤ n

theorem hasNumber_of_classifies {id : String} {category : DiagnosticCategory} (numbered : category ≠ .all)
    (classified : classifies id category = true) : HasNumber id := by
  obtain ⟨n, read, held⟩ := (classifies_iff numbered).mp classified
  exact ⟨n, read, held.positive⟩

theorem HasNumber.existsUnique {id : String} (has : HasNumber id) :
    ∃! category, category ≠ .all ∧ classifies id category = true := by
  obtain ⟨n, read, positive⟩ := has
  obtain ⟨category, held⟩ := DiagnosticCategory.exists_holds positive
  refine ⟨category, ⟨held.ne_all, (classifies_iff held.ne_all).mpr ⟨n, read, held⟩⟩, ?_⟩
  rintro other ⟨numbered, classified⟩
  obtain ⟨m, again, held'⟩ := (classifies_iff numbered).mp classified
  cases Option.mem_unique read again
  exact held'.unique held

theorem isEngineDiagnostic_of_ruleNumber {id : String} {n : UInt32} (read : ruleNumber id = some n) :
    isEngineDiagnostic id = true := by
  unfold ruleNumber at read
  split at read
  · next marked => rw [isEngineDiagnostic, marked, Bool.true_or]
  · cases read

theorem analyzersIn_sublist (category : DiagnosticCategory) (analyzers : List ExternalAnalyzer) :
    (analyzersIn category analyzers).Sublist analyzers := by
  cases category with
  | all => exact List.Sublist.refl _
  | messages | nullChecking | performance | bestPractices => exact List.filter_sublist

theorem mem_analyzersIn {category : DiagnosticCategory} (numbered : category ≠ .all)
    {analyzers : List ExternalAnalyzer} {analyzer : ExternalAnalyzer} : analyzer ∈ analyzersIn category analyzers ↔
      analyzer ∈ analyzers ∧ ∃ descriptor ∈ analyzer.supported, classifies descriptor.id category = true := by
  cases category with
  | all => exact absurd rfl numbered
  | messages | nullChecking | performance | bestPractices =>
    unfold analyzersIn
    rw [List.mem_filter, ExternalAnalyzer.supportsAny, List.any_eq_true]

namespace AnalyzerCatalog

theorem getOrLoad_getOrLoad (catalog : AnalyzerCatalog) : catalog.getOrLoad.2.getOrLoad.1 = catalog.getOrLoad.1 := by
  unfold getOrLoad
  cases kept : catalog.cached with
  | none => rfl
  | some analyzers => simp [kept]

theorem analyzersFor_eq (catalog : AnalyzerCatalog) (category : DiagnosticCategory) :
    catalog.analyzersFor category = (analyzersIn category catalog.getOrLoad.1, catalog.getOrLoad.2) := rfl

end AnalyzerCatalog

theorem diagnostics_by_number :
    (∀ (id : String) (n : Nat), (ruleNumber id).map UInt32.toNat = some n ↔
      n ≤ 4294967295 ∧ ∃ written : NumberedId, written.text = id.toList ∧ written.number = n) ∧
    (∀ id, HasNumber id → ∃! category, category ≠ .all ∧ classifies id category = true) ∧
    (∀ id, ¬ HasNumber id → ∀ category, category ≠ .all → classifies id category = false) ∧
    (∀ id, classifies id .all = true) ∧
    (∀ id category, category ≠ .all → classifies id category = true → isEngineDiagnostic id = true) ∧
    ∀ catalog : AnalyzerCatalog,
      (∀ category, (catalog.analyzersFor category).1.Sublist (catalog.analyzersFor .all).1) ∧
      (∀ earlier category,
        ((catalog.analyzersFor earlier).2.analyzersFor category).1 = (catalog.analyzersFor category).1) ∧
      ∀ analyzer ∈ (catalog.analyzersFor .all).1,
        (∃ category, category ≠ .all ∧ analyzer ∈ (catalog.analyzersFor category).1) ↔
          ∃ descriptor ∈ analyzer.supported, HasNumber descriptor.id := by
  refine ⟨?_, ?_, ?_, ?_, ?_, ?_⟩
  · intro id n
    rw [Option.map_eq_some_iff]
    constructor
    · rintro ⟨word, read, rfl⟩
      exact ⟨Nat.le_of_lt_succ word.toNat_lt, ruleNumber_eq_some_iff.mp read⟩
    · rintro ⟨fits, written, same, value⟩
      have word : (UInt32.ofNat n).toNat = n := UInt32.toNat_ofNat_of_lt' (Nat.lt_succ_of_le fits)
      exact ⟨UInt32.ofNat n, ruleNumber_eq_some_iff.mpr ⟨written, same, value.trans word.symm⟩, word⟩
  · intro id has
    exact has.existsUnique
  · intro id without category numbered
    rw [Bool.eq_false_iff]
    intro classified
    exact without (hasNumber_of_classifies numbered classified)
  · intro id
    rfl
  · intro id category numbered classified
    obtain ⟨n, read, _⟩ := (classifies_iff numbered).mp classified
    exact isEngineDiagnostic_of_ruleNumber read
  · intro catalog
    refine ⟨?_, ?_, ?_⟩
    · intro category
      exact analyzersIn_sublist category _
    · intro earlier category
      simp only [AnalyzerCatalog.analyzersFor_eq, AnalyzerCatalog.getOrLoad_getOrLoad]
    · intro analyzer listed
      constructor
      · rintro ⟨category, numbered, found⟩
        obtain ⟨_, descriptor, supported, classified⟩ := (mem_analyzersIn numbered).mp found
        exact ⟨descriptor, supported, hasNumber_of_classifies numbered classified⟩
      · rintro ⟨descriptor, supported, has⟩
        obtain ⟨category, ⟨numbered, classified⟩, _⟩ := has.existsUnique
        exact ⟨category, numbered, (mem_analyzersIn numbered).mpr ⟨listed, descriptor, supported, classified⟩⟩

def spelledRule : RuleDescriptor := ⟨"uNt\u00a0+0016 ", "", "", "", "", none⟩

def greatestRule : RuleDescriptor := ⟨"UNT4294967295", "", "", "", "", none⟩

def nullAnalyzer : ExternalAnalyzer := ⟨"null", [⟨"CS0618", "", "", "", "", none⟩, spelledRule]⟩

theorem diagnostics_by_number_spelled :
    HasNumber spelledRule.id ∧
    (∃! category, category ≠ .all ∧ classifies spelledRule.id category = true) ∧
    ¬ HasNumber "UNT0000" ∧ classifies "UNT0000" .messages = false ∧
    classifies greatestRule.id .bestPractices = true ∧ isEngineDiagnostic greatestRule.id = true ∧
    nullAnalyzer ∈ ((AnalyzerCatalog.make [nullAnalyzer]).analyzersFor .all).1 ∧
    ∃ category, category ≠ .all ∧ nullAnalyzer ∈ ((AnalyzerCatalog.make [nullAnalyzer]).analyzersFor category).1 := by
  obtain ⟨_, one, none, _, engine, lists⟩ := diagnostics_by_number
  obtain ⟨_, _, found⟩ := lists (.make [nullAnalyzer])
  have spelled : HasNumber spelledRule.id := ⟨16, by decide +kernel, by decide⟩
  have zero : ¬ HasNumber "UNT0000" := by
    rintro ⟨n, read, positive⟩
    have value : ruleNumber "UNT0000" = some 0 := by decide +kernel
    rw [value] at read
    cases read
    exact absurd positive (by decide)
  have greatest : classifies greatestRule.id .bestPractices = true := by decide +kernel
  have listed : nullAnalyzer ∈ ((AnalyzerCatalog.make [nullAnalyzer]).analyzersFor .all).1 := List.mem_cons_self
  refine ⟨spelled, one _ spelled, zero, none _ zero .messages (by decide), greatest,
    engine _ .bestPractices (by decide) greatest, listed, (found _ listed).mpr ?_⟩
  exact ⟨spelledRule, by simp [nullAnalyzer], spelled⟩

end ScriptAudit
