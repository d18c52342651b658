import ScriptAudit.Project.Analysis
import ScriptAudit.Proofs.Migration.Scan
import ScriptAudit.Proofs.Pattern.Analysis
import ScriptAudit.Proofs.Pattern.Report

namespace ScriptAudit

-- The order of the files is free, and so is which files there are besides the scripts.
inductive Rearranged : List SourceFile → List SourceFile → Prop where
  | permute {before after : List SourceFile} (same : before.Perm after) : Rearranged before after
  | insert (first last : List SourceFile) (file : SourceFile) (other : file.isScript = false) :
      Rearranged (first ++ last) (first ++ file :: last)
  | remove (first last : List SourceFile) (file : SourceFile) (other : file.isScript = false) :
      Rearranged (first ++ file :: last) (first ++ last)
  | trans {before between after : List SourceFile} (first : Rearranged before between)
      (second : Rearranged between after) : Rearranged before after

namespace Rearranged

theorem scripts {before after : List SourceFile} (moved : Rearranged before after) :
    (before.filter SourceFile.isScript).Perm (after.filter SourceFile.isScript) := by
  induction moved with
  | permute same => exact same.filter _
  | insert first last file other => simp [other]
  | remove first last file other => simp [other]
  | trans _ _ first second => exact first.trans second

theorem cons {before after : List SourceFile} (file : SourceFile) (moved : Rearranged before after) :
    Rearranged (file :: before) (file :: after) := by
  induction moved with
  | permute same => exact .permute (same.cons file)
  | insert first last added other => exact .insert (file :: first) last added other
  | remove first last gone other => exact .remove (file :: first) last gone other
  | trans _ _ first second => exact first.trans second

theorem symm {before after : List SourceFile} (moved : Rearranged before after) : Rearranged after before := by
  induction moved with
  | permute same => exact .permute same.symm
  | insert first last file other => exact .remove first last file other
  | remove first last file other => exact .insert first last file other
  | trans _ _ first second => exact second.trans first

theorem to_scripts (sources : List SourceFile) : Rearranged sources (sources.filter SourceFile.isScript) := by
  induction sources with
  | nil => exact .permute .nil
  | cons file rest ih =>
    cases script : file.isScript with
    | true => simpa [script] using ih.cons file
    | false => simpa [script] using (Rearranged.remove [] rest file script).trans ih

-- All that a rearrangement keeps is which scripts there are and how often.
theorem iff_scripts {before after : List SourceFile} : Rearranged before after ↔
    (before.filter SourceFile.isScript).Perm (after.filter SourceFile.isScript) := by
  constructor
  · exact scripts
  · intro same
    exact (to_scripts before).trans ((Rearranged.permute same).trans (to_scripts after).symm)

end Rearranged

variable {before after : List SourceFile}

-- Only which scripts an index is built of matters to the question what a component is.
theorem isComponentDeclaration_perm {scripts others : List ParsedScript} (same : scripts.Perm others)
    (source : List Char) (declaration : SyntaxNode) :
    isComponentDeclaration (TypeIndex.ofScripts scripts).hierarchy source declaration =
      isComponentDeclaration (TypeIndex.ofScripts others).hierarchy source declaration := by
  rw [Bool.eq_iff_iff]
  constructor
  · exact isComponentDeclaration_extend (TypeIndex.ofScripts_extends same.subset)
  · exact isComponentDeclaration_extend (TypeIndex.ofScripts_extends same.symm.subset)

theorem PatternRuleSet.analyze_perm {scripts others : List ParsedScript} (same : scripts.Perm others)
    (set : PatternRuleSet) (script : ParsedScript) :
    set.analyze script (TypeIndex.ofScripts scripts).hierarchy =
      set.analyze script (TypeIndex.ofScripts others).hierarchy := by
  simp only [analyze, componentsOf]
  congr 3
  funext declaration
  exact isComponentDeclaration_perm same script.source declaration

def findingsOf (config : AuditConfig) (source : SourceFile) : List MigrationFinding :=
  scan source.path source.text.toList config.migration.check.rules

structure SameCounts (one other : ProjectAnalysis) : Prop where
  scriptsParsed : one.scriptsParsed = other.scriptsParsed
  scriptsWithErrors : one.scriptsWithErrors = other.scriptsWithErrors
  patterns : one.patterns.SameCounts other.patterns
  rulesChecked : one.migrations.rulesChecked = other.migrations.rulesChecked
  filesChecked : one.migrations.filesChecked = other.migrations.filesChecked
  totalFindings : one.migrations.totalFindings = other.migrations.totalFindings
  byApi : one.migrations.byApi = other.migrations.byApi
  byCategory : one.migrations.byCategory = other.migrations.byCategory

namespace ScriptParser

variable (parser : ScriptParser) (root : String) (config : AuditConfig) (scriptsFound : Nat)
  (engineVersion : Option String)

-- The issues of one source among all of them, as far as the report keeps them. A source that does not parse has none.
def issuesOf (sources : List SourceFile) (source : SourceFile) : List PatternIssue :=
  (parser.parse source.path source.text).toOption.toList.flatMap fun script =>
    (config.patterns.rules.analyze script (TypeIndex.ofScripts (parser.parseScripts sources)).hierarchy).filter
      config.patterns.reportOptions.keeps

-- The lists of an analysis are the parts of the single scripts, one after the other, and a part names its script.
structure MadeOf (sources : List SourceFile) (analysis : ProjectAnalysis) : Prop where
  issues : analysis.patterns.issues = (sources.filter SourceFile.isScript).flatMap (parser.issuesOf config sources)
  findings : analysis.migrations.findings = (sources.filter SourceFile.isScript).flatMap (findingsOf config)
  fileOfIssue : ∀ source, ∀ issue ∈ parser.issuesOf config sources source, issue.file = source.path
  fileOfFinding : ∀ source, ∀ finding ∈ findingsOf config source, finding.file = source.path

theorem flatMap_parseScripts {α : Type} (part : ParsedScript → List α) (sources : List SourceFile) :
    (parser.parseScripts sources).flatMap part = (sources.filter SourceFile.isScript).flatMap fun source =>
      (parser.parse source.path source.text).toOption.toList.flatMap part := by
  rw [parseScripts, List.filterMap_eq_flatMap_toList, List.flatMap_assoc]

theorem parseScripts_perm (moved : Rearranged before after) :
    (parser.parseScripts before).Perm (parser.parseScripts after) :=
  moved.scripts.filterMap _

theorem file_of_mem_issuesOf {sources : List SourceFile} {source : SourceFile} {issue : PatternIssue}
    (member : issue ∈ parser.issuesOf config sources source) : issue.file = source.path := by
  obtain ⟨script, parsed, kept⟩ := List.mem_flatMap.mp member
  have raised := PatternRuleSet.file_of_mem_analyze (List.mem_of_mem_filter kept)
  cases read : parser.parse source.path source.text with
  | error cause => simp [read, Except.toOption] at parsed
  | ok whole =>
    have same : script = whole := by simpa [read, Except.toOption] using parsed
    rw [raised, same, path_of_parse read]

theorem analyzeSources_madeOf (sources : List SourceFile) :
    parser.MadeOf config sources (parser.analyzeSources root sources config scriptsFound engineVersion) := by
  refine ⟨?_, rfl, ?_, ?_⟩
  · simp only [analyzeSources, PatternReport.build, PatternRuleSet.analyzeScripts, List.filter_flatMap]
    exact parser.flatMap_parseScripts _ sources
  · intro source issue member
    exact parser.file_of_mem_issuesOf config member
  · intro source finding member
    exact file_of_mem_scan member

theorem issuesOf_rearranged (moved : Rearranged before after) (source : SourceFile) :
    parser.issuesOf config before source = parser.issuesOf config after source := by
  unfold issuesOf
  simp only [PatternRuleSet.analyze_perm (parser.parseScripts_perm moved)]

theorem issues_perm (moved : Rearranged before after) :
    (config.patterns.rules.analyzeScripts (parser.parseScripts before)
      (TypeIndex.ofScripts (parser.parseScripts before)).hierarchy).Perm
        (config.patterns.rules.analyzeScripts (parser.parseScripts after)
          (TypeIndex.ofScripts (parser.parseScripts after)).hierarchy) := by
  have scripts := parser.parseScripts_perm moved
  simp only [PatternRuleSet.analyzeScripts, PatternRuleSet.analyze_perm scripts]
  exact scripts.flatMap_right _

theorem findings_perm (moved : Rearranged before after) :
    ((before.filter SourceFile.isScript).flatMap (findingsOf config)).Perm
      ((after.filter SourceFile.isScript).flatMap (findingsOf config)) :=
  moved.scripts.flatMap_right _

theorem analyzeSources_sameCounts (moved : Rearranged before after) :
    SameCounts (parser.analyzeSources root before config scriptsFound engineVersion)
      (parser.analyzeSources root after config scriptsFound engineVersion) where
  scriptsParsed := (parser.parseScripts_perm moved).length_eq
  scriptsWithErrors := ((parser.parseScripts_perm moved).filter _).length_eq
  patterns := PatternReport.build_perm (parser.issues_perm config moved) root config.patterns.reportOptions
  rulesChecked := rfl
  filesChecked := moved.scripts.length_eq
  totalFindings := (findings_perm config moved).length_eq
  byApi := countBy_perm ((findings_perm config moved).map _)
  byCategory := countBy_perm ((findings_perm config moved).map _)

theorem analyzeSources_rearranged (moved : Rearranged before after) :
    let one := parser.analyzeSources root before config scriptsFound engineVersion
    let other := parser.analyzeSources root after config scriptsFound engineVersion
    parser.MadeOf config before one ∧ parser.MadeOf config after other ∧
      (∀ source, parser.issuesOf config before source = parser.issuesOf config after source) ∧
        one.patterns.issues.Perm other.patterns.issues ∧ one.migrations.findings.Perm other.migrations.findings ∧
          SameCounts one other := by
  intro one other
  refine ⟨?_, ?_, ?_, ?_, ?_, ?_⟩
  · exact parser.analyzeSources_madeOf root config scriptsFound engineVersion before
  · exact parser.analyzeSources_madeOf root config scriptsFound engineVersion after
  · exact parser.issuesOf_rearranged config moved
  · exact (parser.issues_perm config moved).filter _
  · exact findings_perm config moved
  · exact parser.analyzeSources_sameCounts root config scriptsFound engineVersion moved

def heroSource : SourceFile := ⟨"Hero.cs", "class Hero : Actor \x7b void Update() \x7b Find(); \x7d \x7d"⟩

def actorSource : SourceFile := ⟨"Actor.cs", "class Actor : MonoBehaviour \x7b \x7d"⟩

def notesSource : SourceFile := ⟨"notes.txt", "Actor is a component"⟩

theorem analyzeSources_rearranged_hero :
    Rearranged [heroSource, actorSource] [actorSource, notesSource, heroSource] ∧
      ofGrammar.issuesOf .standard [heroSource, actorSource] heroSource =
        ofGrammar.issuesOf .standard [actorSource, notesSource, heroSource] heroSource ∧
        SameCounts (ofGrammar.analyzeSources "Game" [heroSource, actorSource] .standard 2 none)
          (ofGrammar.analyzeSources "Game" [actorSource, notesSource, heroSource] .standard 2 none) := by
  have moved : Rearranged [heroSource, actorSource] [actorSource, notesSource, heroSource] :=
    Rearranged.iff_scripts.mpr (by decide +kernel)
  obtain ⟨_, _, alike, _, _, counts⟩ := analyzeSources_rearranged ofGrammar "Game" .standard 2 none moved
  exact ⟨moved, alike heroSource, counts⟩

end ScriptParser

end ScriptAudit
