import ScriptAudit.Migration.Check
import ScriptAudit.Proofs.Pattern.Report

namespace ScriptAudit

namespace PatternReport

variable (scope : String) (issues : List PatternIssue) (options : PatternReportOptions)

theorem build_sublist : (build scope issues options).issues.Sublist issues := List.filter_sublist

theorem build_issues : build scope (build scope issues options).issues options = build scope issues options := by
  have again : (issues.filter options.keeps).filter options.keeps = issues.filter options.keeps := by
    rw [List.filter_filter]
    simp only [Bool.and_self]
  rw [build, build, again]

theorem countOf_build (rule : PatternRule) : (build scope issues options).countOf rule =
    (build scope issues options).issues.countP fun issue => issue.rule == rule := by
  have listed (entry : RuleCount) : entry ∈ (build scope issues options).byRule ↔ 0 < entry.count ∧
      entry.count = ((build scope issues options).issues.map (·.rule)).count entry.rule := mem_countRules
  have counted : ((build scope issues options).issues.map (·.rule)).count rule =
      (build scope issues options).issues.countP fun issue => issue.rule == rule := List.countP_map
  rw [countOf, ← counted]
  cases found : (build scope issues options).byRule.find? (·.rule == rule) with
  | some entry =>
    have same := List.find?_some found
    have named : entry.rule = rule := eq_of_beq same
    rw [← named]
    exact ((listed entry).mp (List.mem_of_find?_eq_some found)).2
  | none =>
    have absent := List.find?_eq_none.mp found
    by_contra some
    refine absent ⟨rule, _⟩ ((listed _).mpr ⟨Nat.pos_of_ne_zero (Ne.symm some), rfl⟩) ?_
    exact beq_self_eq_true rule

end PatternReport

-- Every listed item counts once in the total, once under its key in each table, and nowhere else.
theorem reports_account :
    (∀ (scope : String) (issues : List PatternIssue) (options : PatternReportOptions),
      let report := PatternReport.build scope issues options
      report.issues = issues.filter options.keeps ∧
      (∀ issue, options.keeps issue = true ↔ (options.includeInfo = true ∨ issue.severity ≠ .info) ∧
        (options.hotPathsOnly = false ∨ issue.inHotPath = true)) ∧
      report.totalIssues = report.issues.length ∧
      (report.byRule.map (·.count)).sum = report.totalIssues ∧
      (report.byCategory.map (·.count)).sum = report.totalIssues ∧
      Accounts RuleCount.rule RuleCount.count (fun a b => a.rank < b.rank) report.byRule
        (report.issues.map (·.rule)) ∧
      Accounts CountEntry.name CountEntry.count (· < ·) report.byCategory (report.issues.map (·.category)) ∧
      (∀ rule, report.countOf rule = report.issues.countP fun issue => issue.rule == rule) ∧
      report.issues.Sublist issues ∧
      PatternReport.build scope report.issues options = report) ∧
    ∀ (check : MigrationCheck) (files : List SourceFile),
      let report := check.run files
      report.findings = ((files.filter SourceFile.isScript).flatMap fun file =>
        scan file.path file.text.toList check.rules) ∧
      report.totalFindings = report.findings.length ∧
      (report.byApi.map (·.count)).sum = report.totalFindings ∧
      (report.byCategory.map (·.count)).sum = report.totalFindings ∧
      Accounts CountEntry.name CountEntry.count (· < ·) report.byApi
        (report.findings.map (·.migration.oldApi)) ∧
      Accounts CountEntry.name CountEntry.count (· < ·) report.byCategory
        (report.findings.map (·.migration.category)) := by
  refine ⟨?_, ?_⟩
  · intro scope issues options report
    have byRule := countRules_accounts report.issues
    have byCategory := countBy_accounts (report.issues.map (·.category))
    refine ⟨rfl, options.keeps_iff, rfl, ?_, ?_, byRule, byCategory, ?_, ?_, ?_⟩
    · exact byRule.total.trans (List.length_map _)
    · exact byCategory.total.trans (List.length_map _)
    · exact PatternReport.countOf_build scope issues options
    · exact PatternReport.build_sublist scope issues options
    · exact PatternReport.build_issues scope issues options
  · intro check files report
    have byApi := countBy_accounts (report.findings.map (·.migration.oldApi))
    have byCategory := countBy_accounts (report.findings.map (·.migration.category))
    refine ⟨rfl, rfl, ?_, ?_, byApi, byCategory⟩
    · exact byApi.total.trans (List.length_map _)
    · exact byCategory.total.trans (List.length_map _)

def heldIssue (rule : PatternRule) (severity : Severity) (category : String) (inHotPath : Bool) : PatternIssue :=
  ⟨rule, rule.title, "", severity, category, "Hero.cs", 3, 8, "", none, "Update", inHotPath⟩

-- Of five issues two are kept: one is only a note, one is in no hot path, and one is both.
def mixedIssues : List PatternIssue :=
  [heldIssue .expensiveCall .warning "Performance" true, heldIssue .debugLog .info "Logging" true,
    heldIssue .mainCamera .error "Performance" false, heldIssue .debugLog .info "Logging" false,
    heldIssue .stringAllocation .error "Memory" true]

def axisMigration : ApiMigration := ⟨"UnityEngine.Input.GetAxis", "InputAction", "2019.4", none, "Input", ""⟩

def axisCheck : MigrationCheck := ⟨⟨[axisMigration]⟩, "2022.3", none⟩

def axisFiles : List SourceFile :=
  [⟨"Hero.cs", "Input.GetAxis(a); Input.GetAxis(b);"⟩, ⟨"notes.txt", "Input.GetAxis(c);"⟩]

theorem reports_account_mixed :
    let report := PatternReport.build "Game" mixedIssues ⟨false, true⟩
    let found := axisCheck.run axisFiles
    report.issues = [heldIssue .expensiveCall .warning "Performance" true,
      heldIssue .stringAllocation .error "Memory" true] ∧
    report.totalIssues = 2 ∧ (report.byRule.map (·.count)).sum = 2 ∧ (report.byCategory.map (·.count)).sum = 2 ∧
      report.countOf .expensiveCall = 1 ∧ report.countOf .debugLog = 0 ∧
    found.totalFindings = 2 ∧ (found.byApi.map (·.count)).sum = 2 ∧ (found.byCategory.map (·.count)).sum = 2 := by
  intro report found
  obtain ⟨kept, _, total, byRule, byCategory, _, _, counted, _, _⟩ := reports_account.1 "Game" mixedIssues ⟨false, true⟩
  obtain ⟨scanned, total', byApi, byCategory', _, _⟩ := reports_account.2 axisCheck axisFiles
  have issues : report.issues = [heldIssue .expensiveCall .warning "Performance" true,
      heldIssue .stringAllocation .error "Memory" true] := kept.trans (by decide +kernel)
  have two : report.totalIssues = 2 := by rw [total, issues]; rfl
  have twice : found.totalFindings = 2 := by
    rw [total', scanned]
    decide +kernel
  refine ⟨issues, two, byRule.trans two, byCategory.trans two, ?_, ?_, twice, byApi.trans twice,
    byCategory'.trans twice⟩
  · rw [counted, issues]
    rfl
  · rw [counted, issues]
    rfl

end ScriptAudit
