import ScriptAudit.Catalog.Basic
import ScriptAudit.Migration.Registry
import ScriptAudit.Pattern.Rule

namespace ScriptAudit

structure RuleSummary where
  code : String
  title : String
  category : String
deriving DecidableEq, Repr

namespace RuleSummary

def ofRule (rule : PatternRule) : RuleSummary := ⟨rule.code, rule.title, performanceCategory⟩

def toJson (summary : RuleSummary) : Json :=
  .object [("id", .string summary.code), ("title", .string summary.title),
    ("category", .string summary.category)]

end RuleSummary

structure DiagnosticsOverview where
  analyzerDiagnostics : List RuleDescriptor
  analyzerCount : Nat
  customPatterns : List RuleSummary
  migrationRules : Nat
  migrationCategories : List String
deriving DecidableEq, Repr

namespace DiagnosticsOverview

def ofDiagnostics (diagnostics : List RuleDescriptor) (registry : MigrationRegistry) :
    DiagnosticsOverview where
  analyzerDiagnostics := diagnostics
  analyzerCount := diagnostics.length
  customPatterns := PatternRule.all.map RuleSummary.ofRule
  migrationRules := registry.size
  migrationCategories := registry.categories

def collect (catalog : AnalyzerCatalog) (registry : MigrationRegistry) :
    DiagnosticsOverview × AnalyzerCatalog :=
  let (diagnostics, next) := catalog.availableDiagnostics
  (ofDiagnostics diagnostics registry, next)

def toJson (overview : DiagnosticsOverview) : Json :=
  .object [("analyzer_diagnostics", .array (overview.analyzerDiagnostics.map RuleDescriptor.toJson)),
    ("analyzer_count", .number overview.analyzerCount),
    ("custom_patterns", .array (overview.customPatterns.map RuleSummary.toJson)),
    ("migration_rules", .number overview.migrationRules),
    ("migration_categories", .array (overview.migrationCategories.map .string))]

end DiagnosticsOverview

end ScriptAudit
