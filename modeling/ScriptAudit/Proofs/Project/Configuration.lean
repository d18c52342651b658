import ScriptAudit.Project.Analysis
import ScriptAudit.Proofs.Pattern.Report

namespace ScriptAudit

namespace PatternRule

-- A code names a rule by its letters and digits: white space at its ends and the case of its letters do not count.
def IsNamed (rule : PatternRule) (code : String) : Prop :=
  Text.foldAscii (Text.trim code.toList) = Text.foldAscii rule.code.toList

instance (rule : PatternRule) (code : String) : Decidable (rule.IsNamed code) :=
  inferInstanceAs (Decidable (_ = _))

theorem folded_code_injective {first second : PatternRule}
    (same : Text.foldAscii first.code.toList = Text.foldAscii second.code.toList) : first = second := by
  cases first <;> cases second <;> first | rfl | exact absurd same (by decide +kernel)

theorem sameIgnoringCase_iff (rule : PatternRule) (code : String) :
    Text.sameIgnoringCase rule.code (Text.trimmed code) = true ↔ rule.IsNamed code := by
  rw [Text.sameIgnoringCase, Text.sameFolded, Text.trimmed, String.toList_ofList, beq_iff_eq]
  exact eq_comm

theorem isNamed_of_ofCode {rule : PatternRule} {code : String} (found : ofCode code = some rule) :
    rule.IsNamed code := by
  unfold ofCode at found
  have same := List.find?_some found
  exact (sameIgnoringCase_iff rule code).mp same

theorem ofCode_eq_some_iff (rule : PatternRule) (code : String) : ofCode code = some rule ↔ rule.IsNamed code := by
  constructor
  · exact isNamed_of_ofCode
  · intro named
    cases found : ofCode code with
    | none =>
      unfold ofCode at found
      exact absurd ((sameIgnoringCase_iff rule code).mpr named) (List.find?_eq_none.mp found rule rule.mem_all)
    | some other => rw [folded_code_injective ((isNamed_of_ofCode found).symm.trans named)]

end PatternRule

namespace PatternRuleSet

theorem foldl_disable (set : PatternRuleSet) (rules : List PatternRule) :
    rules.foldl disable set = ⟨set.rules, rules.reverse ++ set.disabled⟩ := by
  induction rules generalizing set with
  | nil => rfl
  | cons rule rest ih => rw [List.foldl_cons, ih]; simp [disable]

theorem rules_withDisabled (codes : List String) : (withDisabled codes).rules = builtin.rules := by
  rw [withDisabled, foldl_disable]

theorem isEnabled_withDisabled (codes : List String) (rule : PatternRule) :
    (withDisabled codes).isEnabled rule = true ↔ ∀ code ∈ codes, ¬ rule.IsNamed code := by
  simp [withDisabled, foldl_disable, isEnabled, builtin, PatternRule.ofCode_eq_some_iff]

end PatternRuleSet

theorem MethodContext.rule_of_mem_check {context : MethodContext} {rule : PatternRule} {issue : PatternIssue}
    (raised : issue ∈ context.check rule) : issue.rule = rule := by
  obtain ⟨node, _, remarked⟩ := List.mem_filterMap.mp raised
  obtain ⟨remark, _, rfl⟩ := Option.map_eq_some_iff.mp remarked
  rfl

namespace PatternRuleSet

-- Leaving a rule out before the rules run is leaving its issues out afterwards.
theorem run_eq_filter {set whole : PatternRuleSet} (rules : set.rules = whole.rules)
    (nothing : whole.disabled = []) (context : MethodContext) :
    set.run context = (whole.run context).filter fun issue => set.isEnabled issue.rule := by
  rw [run, run, rules, List.filter_flatMap]
  induction whole.rules with
  | nil => rfl
  | cons rule rest ih =>
    have own (issue : PatternIssue) (raised : issue ∈ context.check rule) :
        set.isEnabled issue.rule = set.isEnabled rule := by
      rw [MethodContext.rule_of_mem_check raised]
    have applied : set.applies context rule = (set.isEnabled rule && whole.applies context rule) := by
      simp [applies, isEnabled, nothing]
    rw [List.filter_cons, List.filter_cons, applied]
    cases whole.applies context rule with
    | false => simpa using ih
    | true =>
      rw [Bool.and_true, if_pos rfl, List.flatMap_cons, List.filter_congr own, ← ih]
      cases set.isEnabled rule with
      | false => simp
      | true => rw [List.filter_eq_self.mpr fun _ _ => rfl, if_pos rfl, List.flatMap_cons]

theorem analyze_eq_filter {set whole : PatternRuleSet} {keeps : PatternIssue → Bool}
    (runs : ∀ context, set.run context = (whole.run context).filter keeps) (script : ParsedScript)
    (hierarchy : TypeHierarchy) :
    set.analyze script hierarchy = (whole.analyze script hierarchy).filter keeps := by
  rw [analyze, analyze, List.filter_flatMap, funext runs]

theorem analyzeScripts_eq_filter {set whole : PatternRuleSet} {keeps : PatternIssue → Bool}
    (runs : ∀ context, set.run context = (whole.run context).filter keeps) (scripts : List ParsedScript)
    (hierarchy : TypeHierarchy) :
    set.analyzeScripts scripts hierarchy = (whole.analyzeScripts scripts hierarchy).filter keeps := by
  simp only [analyzeScripts, analyze_eq_filter runs, List.filter_flatMap]

theorem run_congr {set other : PatternRuleSet} (rules : set.rules = other.rules)
    (enabled : ∀ rule, set.isEnabled rule = other.isEnabled rule) : set.run = other.run := by
  funext context
  have applied : set.applies context = other.applies context := by
    funext rule
    rw [applies, applies, enabled]
  rw [run, run, rules, applied]

theorem analyzeScripts_congr {set other : PatternRuleSet} (rules : set.rules = other.rules)
    (enabled : ∀ rule, set.isEnabled rule = other.isEnabled rule) :
    set.analyzeScripts = other.analyzeScripts := by
  funext scripts hierarchy
  simp only [analyzeScripts, analyze, run_congr rules enabled]

end PatternRuleSet

theorem PatternReportOptions.filter_standard (issues : List PatternIssue) : issues.filter standard.keeps = issues := by
  refine List.filter_eq_self.mpr fun issue _ => ?_
  simp [keeps, standard]

theorem PatternReport.build_filter (scope : String) (issues : List PatternIssue) (options : PatternReportOptions) :
    build scope issues options = build scope (issues.filter options.keeps) .standard := by
  rw [build, build, PatternReportOptions.filter_standard]

structure PatternConfig.Admits (config : PatternConfig) (issue : PatternIssue) : Prop where
  enabled : ∀ code ∈ config.disabledRules, ¬ issue.rule.IsNamed code
  severe : config.includeInfo = true ∨ issue.severity ≠ .info
  hot : config.hotPathsOnly = false ∨ issue.inHotPath = true

namespace PatternConfig

variable (config : PatternConfig)

theorem admits_iff (issue : PatternIssue) : config.Admits issue ↔
    (config.rules.isEnabled issue.rule && config.reportOptions.keeps issue) = true := by
  rw [Bool.and_eq_true, rules, PatternRuleSet.isEnabled_withDisabled, PatternReportOptions.keeps_iff]
  exact ⟨fun ⟨enabled, severe, hot⟩ => ⟨enabled, severe, hot⟩, fun ⟨enabled, severe, hot⟩ => ⟨enabled, severe, hot⟩⟩

instance (issue : PatternIssue) : Decidable (config.Admits issue) := decidable_of_iff _ (config.admits_iff issue).symm

theorem report_eq_filter (scope : String) (scripts : List ParsedScript) (hierarchy : TypeHierarchy) :
    PatternReport.build scope (config.rules.analyzeScripts scripts hierarchy) config.reportOptions =
      .build scope ((standard.rules.analyzeScripts scripts hierarchy).filter fun issue =>
        decide (config.Admits issue)) .standard := by
  have runs (context : MethodContext) : config.rules.run context =
      (standard.rules.run context).filter fun issue => config.rules.isEnabled issue.rule :=
    PatternRuleSet.run_eq_filter (PatternRuleSet.rules_withDisabled config.disabledRules) rfl context
  have kept (issue : PatternIssue) : (config.reportOptions.keeps issue && config.rules.isEnabled issue.rule) =
      decide (config.Admits issue) := by
    rw [Bool.and_comm, Bool.eq_iff_iff, decide_eq_true_iff, admits_iff]
  rw [PatternReport.build_filter, PatternRuleSet.analyzeScripts_eq_filter runs, List.filter_filter]
  simp only [kept]

-- Codes count by the rules that they name, so their order, repetitions and codes of no rule do not matter.
theorem analyzeScripts_of_sameNamed {codes : List String}
    (same : ∀ rule : PatternRule,
      (∃ code ∈ codes, rule.IsNamed code) ↔ ∃ code ∈ config.disabledRules, rule.IsNamed code) :
    PatternRuleSet.analyzeScripts (rules { config with disabledRules := codes }) = config.rules.analyzeScripts := by
  have rules := (PatternRuleSet.rules_withDisabled codes).trans
    (PatternRuleSet.rules_withDisabled config.disabledRules).symm
  refine PatternRuleSet.analyzeScripts_congr rules fun rule => ?_
  have agree := not_congr (same rule)
  simp only [not_exists, not_and] at agree
  rw [PatternConfig.rules, PatternConfig.rules, Bool.eq_iff_iff, PatternRuleSet.isEnabled_withDisabled,
    PatternRuleSet.isEnabled_withDisabled, agree]

end PatternConfig

namespace ScriptParser

variable (parser : ScriptParser) (root : String) (sources : List SourceFile) (config : AuditConfig)
  (scriptsFound : Nat) (engineVersion : Option String)

theorem patterns_eq_filter :
    (parser.analyzeSources root sources config scriptsFound engineVersion).patterns =
      .build root ((parser.analyzeSources root sources { config with patterns := .standard } scriptsFound
        engineVersion).patterns.issues.filter fun issue => decide (config.patterns.Admits issue)) .standard := by
  have whole : (parser.analyzeSources root sources { config with patterns := .standard } scriptsFound
      engineVersion).patterns.issues =
        PatternConfig.standard.rules.analyzeScripts (parser.parseScripts sources)
          (TypeIndex.ofScripts (parser.parseScripts sources)).hierarchy :=
    PatternReportOptions.filter_standard _
  rw [whole]
  exact config.patterns.report_eq_filter root (parser.parseScripts sources) _

-- With the pattern section left at its defaults nothing is disabled and every issue is kept. The other results stay as
-- they are under every pattern section, and the pattern report under every migration section.
theorem configuration_filters :
    (parser.analyzeSources root sources config scriptsFound engineVersion).patterns.issues =
      ((parser.analyzeSources root sources { config with patterns := .standard } scriptsFound
        engineVersion).patterns.issues.filter fun issue => decide (config.patterns.Admits issue)) ∧
    (∀ codes : List String,
      (∀ rule : PatternRule, (∃ code ∈ codes, rule.IsNamed code) ↔
        ∃ code ∈ config.patterns.disabledRules, rule.IsNamed code) →
      parser.analyzeSources root sources { config with patterns := { config.patterns with disabledRules := codes } }
        scriptsFound engineVersion = parser.analyzeSources root sources config scriptsFound engineVersion) ∧
    (∀ patterns : PatternConfig,
      parser.analyzeSources root sources { config with patterns } scriptsFound engineVersion =
        { parser.analyzeSources root sources config scriptsFound engineVersion with
          patterns := (parser.analyzeSources root sources { config with patterns } scriptsFound
            engineVersion).patterns }) ∧
    ∀ migration : MigrationConfig,
      (parser.analyzeSources root sources { config with migration } scriptsFound engineVersion).patterns =
        (parser.analyzeSources root sources config scriptsFound engineVersion).patterns := by
  refine ⟨?_, ?_, fun _ => rfl, fun _ => rfl⟩
  · rw [patterns_eq_filter]
    exact PatternReportOptions.filter_standard _
  · intro codes same
    simp only [analyzeSources, PatternConfig.analyzeScripts_of_sameNamed config.patterns same]
    rfl

theorem configuration_filters_spelled :
    (∀ rule : PatternRule, (∃ code ∈ [" upa0003 ", "UPA0003", "UPA9999"], rule.IsNamed code) ↔
      ∃ code ∈ ["UPA0003"], rule.IsNamed code) ∧
    ofGrammar.analyzeSources "/game" [⟨"Hero.cs", "class Hero : MonoBehaviour \x7b \x7d"⟩]
        ⟨⟨true, false, [" upa0003 ", "UPA0003", "UPA9999"]⟩, .standard, .standard, .standard⟩ 1 none =
      ofGrammar.analyzeSources "/game" [⟨"Hero.cs", "class Hero : MonoBehaviour \x7b \x7d"⟩]
        ⟨⟨true, false, ["UPA0003"]⟩, .standard, .standard, .standard⟩ 1 none := by
  have same : ∀ rule : PatternRule, (∃ code ∈ [" upa0003 ", "UPA0003", "UPA9999"], rule.IsNamed code) ↔
      ∃ code ∈ ["UPA0003"], rule.IsNamed code := by
    intro rule
    cases rule <;> decide +kernel
  exact ⟨same, (configuration_filters ofGrammar "/game" _ ⟨⟨true, false, ["UPA0003"]⟩, .standard, .standard, .standard⟩
    1 none).2.1 _ same⟩

end ScriptParser

end ScriptAudit
