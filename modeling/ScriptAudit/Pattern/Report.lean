import ScriptAudit.Pattern.Issue
import ScriptAudit.Tally

namespace ScriptAudit

structure PatternReportOptions where
  includeInfo : Bool
  hotPathsOnly : Bool
deriving DecidableEq, Repr

namespace PatternReportOptions

def standard : PatternReportOptions := ⟨true, false⟩

def keeps (options : PatternReportOptions) (issue : PatternIssue) : Bool :=
  (options.includeInfo || issue.severity != .info) && (!options.hotPathsOnly || issue.inHotPath)

end PatternReportOptions

structure RuleCount where
  rule : PatternRule
  count : Nat
deriving DecidableEq, Repr

namespace RuleCount

def ranksBefore (a b : RuleCount) : Bool :=
  decide (b.count < a.count) || (a.count == b.count && decide (a.rule.rank ≤ b.rule.rank))

def toJson (entry : RuleCount) : Json :=
  .object [("id", .string entry.rule.code), ("title", .string entry.rule.title),
    ("count", .number entry.count)]

end RuleCount

def countRules (issues : List PatternIssue) : List RuleCount :=
  let counts := PatternRule.all.map fun rule => RuleCount.mk rule ((issues.map (·.rule)).count rule)
  (counts.filter fun entry => 0 < entry.count).mergeSort RuleCount.ranksBefore

structure PatternReport where
  scope : String
  totalIssues : Nat
  byCategory : List CountEntry
  byRule : List RuleCount
  issues : List PatternIssue
deriving DecidableEq, Repr

namespace PatternReport

def build (scope : String) (issues : List PatternIssue) (options : PatternReportOptions) : PatternReport :=
  let kept := issues.filter options.keeps
  { scope
    totalIssues := kept.length
    byCategory := countBy (kept.map (·.category))
    byRule := countRules kept
    issues := kept }

def countOf (report : PatternReport) (rule : PatternRule) : Nat :=
  match report.byRule.find? (·.rule == rule) with
  | none => 0
  | some entry => entry.count

def toJson (report : PatternReport) : Json :=
  .object [("scope", .string report.scope), ("total_issues", .number report.totalIssues),
    ("by_category", .array (report.byCategory.map CountEntry.toJson)),
    ("by_id", .array (report.byRule.map RuleCount.toJson)),
    ("issues", .array (report.issues.map PatternIssue.toJson))]

end PatternReport

end ScriptAudit
