import Mathlib.Algebra.GroupWithZero.Nat
import ScriptAudit.Migration.Check
import ScriptAudit.Proofs.Migration.Scan
import ScriptAudit.Proofs.Tally

namespace ScriptAudit

def SameName (a b : String) : Prop := Text.foldAscii a.toList = Text.foldAscii b.toList

instance (a b : String) : Decidable (SameName a b) := inferInstanceAs (Decidable (_ = _))

theorem sameIgnoringCase_iff_sameName (a b : String) : Text.sameIgnoringCase a b = true ↔ SameName a b := by
  rw [Text.sameIgnoringCase, Text.sameFolded, SameName, beq_iff_eq]

theorem SameName.trans {a b c : String} (first : SameName a b) (second : SameName b c) : SameName a c :=
  Eq.trans first second

theorem SameName.symm {a b : String} (same : SameName a b) : SameName b a := Eq.symm same

namespace EngineVersion

theorem le_iff (a b : EngineVersion) : a.le b = true ↔
    a.major < b.major ∨ a.major = b.major ∧ (a.minor < b.minor ∨ a.minor = b.minor ∧ a.patch ≤ b.patch) := by
  simp [le]

theorem le_trans {a b c : EngineVersion} (first : a.le b = true) (second : b.le c = true) : a.le c = true := by
  rw [le_iff] at first second ⊢
  rcases first with major | ⟨major, first⟩
  · rcases second with major' | ⟨major', _⟩
    · exact .inl (UInt32.lt_trans major major')
    · exact .inl (major' ▸ major)
  · rcases second with major' | ⟨major', second⟩
    · exact .inl (major ▸ major')
    · refine .inr ⟨major.trans major', ?_⟩
      rcases first with minor | ⟨minor, patch⟩
      · rcases second with minor' | ⟨minor', _⟩
        · exact .inl (UInt32.lt_trans minor minor')
        · exact .inl (minor' ▸ minor)
      · rcases second with minor' | ⟨minor', patch'⟩
        · exact .inl (minor ▸ minor')
        · exact .inr ⟨minor.trans minor', UInt32.le_trans patch patch'⟩

end EngineVersion

def findingsIn (rules : List ApiMigration) (files : List SourceFile) : List MigrationFinding :=
  (files.filter SourceFile.isScript).flatMap fun file => scan file.path file.text.toList rules

theorem findingsIn_filter (keeps : ApiMigration → Bool) (rules : List ApiMigration) (files : List SourceFile) :
    findingsIn (rules.filter keeps) files =
      (findingsIn rules files).filter fun finding => keeps finding.migration := by
  simp only [findingsIn, List.filter_flatMap, scan_filter]

theorem migration_of_mem_findingsIn {rules : List ApiMigration} {files : List SourceFile} {finding : MigrationFinding}
    (found : finding ∈ findingsIn rules files) : finding.migration ∈ rules := by
  obtain ⟨file, _, here⟩ := List.mem_flatMap.mp found
  obtain ⟨m, listed, raised⟩ := List.mem_flatMap.mp here
  rwa [migration_of_mem_scanFor raised]

-- What a check with a target version and a category looks for. A blank category restricts nothing.
structure ApiMigration.IsWanted (target : String) (category : Option String) (m : ApiMigration) : Prop where
  deprecated : m.deprecatedIn.le (.ofString target) = true
  inCategory : ∀ name ∈ category, Text.isBlankText name = false → SameName m.category name

namespace MigrationRegistry

theorem mem_categories {registry : MigrationRegistry} {category : String} :
    category ∈ registry.categories ↔ ∃ m ∈ registry.entries, m.category = category := by
  rw [categories, List.mem_mergeSort, List.mem_eraseDups, List.mem_map]

-- One name for each class of the categories of a table that differ in the case of letters only.
structure Represents (registry : MigrationRegistry) (names : List String) : Prop where
  listed : names ⊆ registry.categories
  apart : names.Pairwise fun a b => ¬ SameName a b
  every : ∀ category ∈ registry.categories, ∃ name ∈ names, SameName category name

theorem Represents.filter_eq {registry : MigrationRegistry} {names : List String} {category : String}
    (chosen : registry.Represents names) (listed : category ∈ registry.categories) :
    ∃ name, names.filter (fun name => decide (SameName category name)) = [name] := by
  obtain ⟨name, member, same⟩ := chosen.every category listed
  obtain ⟨before, after, rfl⟩ := List.append_of_mem member
  obtain ⟨_, behind, front⟩ := List.pairwise_append.mp chosen.apart
  have none_before : before.filter (fun name => decide (SameName category name)) = [] := by
    refine List.filter_eq_nil_iff.mpr fun other here also => ?_
    exact front other here name List.mem_cons_self ((of_decide_eq_true also).symm.trans same)
  have none_after : after.filter (fun name => decide (SameName category name)) = [] := by
    refine List.filter_eq_nil_iff.mpr fun other here also => ?_
    exact (List.pairwise_cons.mp behind).1 other here (same.symm.trans (of_decide_eq_true also))
  refine ⟨name, ?_⟩
  rw [List.filter_append, none_before, List.filter_cons_of_pos (by simpa using same), none_after]
  rfl

theorem Represents.existsUnique {registry : MigrationRegistry} {names : List String} {category : String}
    (chosen : registry.Represents names) (listed : category ∈ registry.categories) :
    ∃! name, name ∈ names ∧ SameName category name := by
  obtain ⟨name, only⟩ := chosen.filter_eq listed
  have picked (other : String) : other ∈ names ∧ SameName category other ↔ other = name := by
    rw [← List.mem_singleton, ← only, List.mem_filter, decide_eq_true_iff]
  exact ⟨name, (picked name).mpr rfl, fun other => (picked other).mp⟩

theorem Represents.isBlankText_eq_false {registry : MigrationRegistry} {names : List String} {name : String}
    (chosen : registry.Represents names)
    (visible : ∀ m ∈ registry.entries, Text.isBlankText m.category = false) (member : name ∈ names) :
    Text.isBlankText name = false := by
  obtain ⟨m, listed, rfl⟩ := mem_categories.mp (chosen.listed member)
  exact visible m listed

end MigrationRegistry

namespace MigrationReport

structure Within (few many : MigrationReport) : Prop where
  findings : few.findings.Sublist many.findings
  rulesChecked : few.rulesChecked ≤ many.rulesChecked
  totalFindings : few.totalFindings ≤ many.totalFindings
  byApi : CountsWithin few.byApi many.byApi
  byCategory : CountsWithin few.byCategory many.byCategory

-- Reports under several names that share the rules and findings of a report among them.
structure PartedBy (whole : MigrationReport) (names : List String) (part : String → MigrationReport) : Prop where
  one : ∀ finding ∈ whole.findings, ∃! name, name ∈ names ∧ finding ∈ (part name).findings
  findings : (names.flatMap fun name => (part name).findings).Perm whole.findings
  rulesChecked : (names.map fun name => (part name).rulesChecked).sum = whole.rulesChecked
  totalFindings : (names.map fun name => (part name).totalFindings).sum = whole.totalFindings

end MigrationReport

namespace MigrationCheck

variable {registry : MigrationRegistry} {target earlier later : String} {category : Option String}
  {m : ApiMigration}

theorem admits_make : (make registry target category).admits m = true ↔
    ∀ name ∈ category, Text.isBlankText name = false → SameName m.category name := by
  cases category with
  | none => simp [make, admits]
  | some name =>
    cases blank : Text.isBlankText name <;> simp [make, admits, Option.filter, blank, sameIgnoringCase_iff_sameName]

theorem isWanted_iff (registry : MigrationRegistry) : m.IsWanted target category ↔
    (m.deprecatedIn.le (.ofString target) && (make registry target category).admits m) = true := by
  rw [Bool.and_eq_true, admits_make]
  exact ⟨fun ⟨deprecated, inCategory⟩ => ⟨deprecated, inCategory⟩,
    fun ⟨deprecated, inCategory⟩ => ⟨deprecated, inCategory⟩⟩

instance : Decidable (m.IsWanted target category) :=
  decidable_of_iff _ (isWanted_iff ⟨[]⟩).symm

theorem rules_make (registry : MigrationRegistry) (target : String) (category : Option String) :
    (make registry target category).rules =
      registry.entries.filter fun m => decide (m.IsWanted target category) := by
  rw [rules, MigrationRegistry.forVersion, List.filter_filter]
  congr 1
  funext m
  rw [Bool.eq_iff_iff, decide_eq_true_iff, isWanted_iff registry, Bool.and_comm]
  rfl

theorem findings_run (registry : MigrationRegistry) (target : String) (category : Option String)
    (files : List SourceFile) : ((make registry target category).run files).findings =
      (findingsIn registry.entries files).filter fun finding =>
        decide (finding.migration.IsWanted target category) := by
  rw [← findingsIn_filter fun m => decide (m.IsWanted target category), ← rules_make]
  rfl

theorem run_within (ordered : (EngineVersion.ofString earlier).le (.ofString later) = true)
    (registry : MigrationRegistry) (category : Option String) (files : List SourceFile) :
    ((make registry earlier category).run files).Within ((make registry later category).run files) := by
  have still (m : ApiMigration) (wanted : decide (m.IsWanted earlier category) = true) :
      decide (m.IsWanted later category) = true := by
    obtain ⟨deprecated, inCategory⟩ := of_decide_eq_true wanted
    exact decide_eq_true ⟨EngineVersion.le_trans deprecated ordered, inCategory⟩
  have findings : ((make registry earlier category).run files).findings.Sublist
      ((make registry later category).run files).findings := by
    rw [findings_run, findings_run]
    exact List.monotone_filter_right _ fun finding => still finding.migration
  have rules : (make registry earlier category).rules.Sublist (make registry later category).rules := by
    rw [rules_make, rules_make]
    exact List.monotone_filter_right _ still
  exact ⟨findings, rules.length_le, findings.length_le, countBy_countsWithin (findings.map _),
    countBy_countsWithin (findings.map _)⟩

theorem isWanted_some_iff {name : String} (visible : Text.isBlankText name = false) :
    m.IsWanted target (some name) ↔ SameName m.category name ∧ m.IsWanted target none := by
  constructor
  · rintro ⟨deprecated, inCategory⟩
    exact ⟨inCategory name rfl visible, deprecated, by simp⟩
  · rintro ⟨same, deprecated, _⟩
    refine ⟨deprecated, ?_⟩
    rintro _ ⟨⟩ _
    exact same

theorem filter_isWanted_some {α : Type} {name : String} (visible : Text.isBlankText name = false)
    (migration : α → ApiMigration) (items : List α) :
    (items.filter fun item => decide ((migration item).IsWanted target (some name))) =
      (items.filter fun item => decide ((migration item).IsWanted target none)).filter fun item =>
        decide (SameName (migration item).category name) := by
  rw [List.filter_filter]
  congr 1
  funext item
  rw [← Bool.decide_and, decide_eq_decide, isWanted_some_iff visible]

theorem rules_some {name : String} (visible : Text.isBlankText name = false) (registry : MigrationRegistry)
    (target : String) : (make registry target (some name)).rules =
      (make registry target none).rules.filter fun m => decide (SameName m.category name) := by
  rw [rules_make, rules_make]
  exact filter_isWanted_some visible id registry.entries

theorem findings_some {name : String} (visible : Text.isBlankText name = false) (registry : MigrationRegistry)
    (target : String) (files : List SourceFile) : ((make registry target (some name)).run files).findings =
      ((make registry target none).run files).findings.filter fun finding =>
        decide (SameName finding.migration.category name) := by
  rw [findings_run, findings_run]
  exact filter_isWanted_some visible MigrationFinding.migration _

theorem category_mem_of_mem_rules (member : m ∈ (make registry target category).rules) :
    m.category ∈ registry.categories := by
  rw [rules_make] at member
  exact MigrationRegistry.mem_categories.mpr ⟨m, List.mem_of_mem_filter member, rfl⟩

theorem run_partedBy {names : List String} (chosen : registry.Represents names)
    (visible : ∀ m ∈ registry.entries, Text.isBlankText m.category = false) (target : String)
    (files : List SourceFile) : ((make registry target none).run files).PartedBy names fun name =>
      (make registry target (some name)).run files := by
  have findings (name : String) (member : name ∈ names) :=
    findings_some (chosen.isBlankText_eq_false visible member) registry target files
  have category (finding : MigrationFinding)
      (found : finding ∈ ((make registry target none).run files).findings) :
      finding.migration.category ∈ registry.categories :=
    category_mem_of_mem_rules (migration_of_mem_findingsIn found)
  have rulesTogether : (names.flatMap fun name => (make registry target (some name)).rules).Perm
      (make registry target none).rules := by
    rw [List.flatMap_congr fun name member =>
      rules_some (chosen.isBlankText_eq_false visible member) registry target]
    exact flatMap_filter_perm fun m listed => chosen.filter_eq (category_mem_of_mem_rules listed)
  have findingsTogether : (names.flatMap fun name => ((make registry target (some name)).run files).findings).Perm
      ((make registry target none).run files).findings := by
    rw [List.flatMap_congr findings]
    exact flatMap_filter_perm fun finding found => chosen.filter_eq (category finding found)
  refine ⟨?_, findingsTogether, ?_, ?_⟩
  · intro finding found
    obtain ⟨name, ⟨member, same⟩, unique⟩ := chosen.existsUnique (category finding found)
    have here (other : String) (listed : other ∈ names) :
        finding ∈ ((make registry target (some other)).run files).findings ↔
          SameName finding.migration.category other := by
      rw [findings other listed, List.mem_filter, decide_eq_true_iff, and_iff_right found]
    refine ⟨name, ⟨member, (here name member).mpr same⟩, ?_⟩
    rintro other ⟨listed, also⟩
    exact unique other ⟨listed, (here other listed).mp also⟩
  · exact (List.length_flatMap ..).symm.trans rulesTogether.length_eq
  · exact (List.length_flatMap ..).symm.trans findingsTogether.length_eq

-- Version and category decide by themselves which findings of the whole table are reported.
theorem run_filters (registry : MigrationRegistry) (files : List SourceFile) :
    (∀ (target : String) (category : Option String),
      ((make registry target category).run files).findings =
        (findingsIn registry.entries files).filter fun finding =>
          decide (finding.migration.IsWanted target category)) ∧
    (∀ (earlier later : String) (category : Option String),
      (EngineVersion.ofString earlier).le (.ofString later) = true →
        ((make registry earlier category).run files).Within ((make registry later category).run files)) ∧
    ∀ (target : String) (names : List String),
      (∀ m ∈ registry.entries, Text.isBlankText m.category = false) → registry.Represents names →
        ((make registry target none).run files).PartedBy names fun name =>
          (make registry target (some name)).run files := by
  refine ⟨?_, ?_, ?_⟩
  · intro target category
    exact findings_run registry target category files
  · intro earlier later category ordered
    exact run_within ordered registry category files
  · intro target names visible chosen
    exact run_partedBy chosen visible target files

def inputTable : MigrationRegistry where
  entries := [
    ⟨"UnityEngine.Input.GetAxis", "InputAction", "2019.4", none, "Input", ""⟩,
    ⟨"UnityEngine.WWW", "UnityWebRequest", "2018.3", none, "Networking", ""⟩,
    ⟨"UnityEngine.Input.GetKey", "InputAction", "2022.1", none, "INPUT", ""⟩]

def inputScript : SourceFile := ⟨"Hero.cs", "Input.GetAxis(); UnityEngine.WWW; Input.GetKey();"⟩

theorem inputTable_represents : inputTable.Represents ["Input", "Networking"] := by
  refine ⟨?_, by decide +kernel, ?_⟩
  · intro name member
    refine MigrationRegistry.mem_categories.mpr ?_
    rcases List.mem_pair.mp member with rfl | rfl <;> simp [inputTable]
  · intro category listed
    obtain ⟨m, entry, rfl⟩ := MigrationRegistry.mem_categories.mp listed
    clear listed
    revert m entry
    decide +kernel

-- A text that is no version is the lowest one.
theorem run_filters_input :
    (EngineVersion.ofString "latest").le (.ofString "2022.3.1f1") = true ∧
    (∀ m ∈ inputTable.entries, Text.isBlankText m.category = false) ∧
    inputTable.Represents ["Input", "Networking"] ∧
    ((make inputTable "2022.3.1f1" none).run [inputScript]).findings.map (·.offset) = [0, 17, 34] ∧
    ((make inputTable "latest" (some "input")).run [inputScript]).Within
      ((make inputTable "2022.3.1f1" (some "input")).run [inputScript]) ∧
    ((make inputTable "2022.3.1f1" none).run [inputScript]).PartedBy ["Input", "Networking"] fun name =>
      (make inputTable "2022.3.1f1" (some name)).run [inputScript] := by
  have ordered : (EngineVersion.ofString "latest").le (.ofString "2022.3.1f1") = true := by decide +kernel
  have visible : ∀ m ∈ inputTable.entries, Text.isBlankText m.category = false := by decide +kernel
  obtain ⟨_, grows, parts⟩ := run_filters inputTable [inputScript]
  have found : ((make inputTable "2022.3.1f1" none).run [inputScript]).findings.map (·.offset) = [0, 17, 34] := by
    decide +kernel
  exact ⟨ordered, visible, inputTable_represents, found, grows _ _ _ ordered,
    parts _ _ visible inputTable_represents⟩

end MigrationCheck

end ScriptAudit
