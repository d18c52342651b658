import ScriptAudit.Migration.Builtin
import ScriptAudit.Migration.Scan
import ScriptAudit.SourceFile
import ScriptAudit.Tally

namespace ScriptAudit

structure MigrationReport where
  targetVersion : String
  rulesChecked : Nat
  filesChecked : Nat
  totalFindings : Nat
  byApi : List CountEntry
  byCategory : List CountEntry
  findings : List MigrationFinding
deriving DecidableEq, Repr

namespace MigrationReport

def toJson (report : MigrationReport) : Json :=
  .object [("target_version", .string report.targetVersion),
    ("migration_rules_checked", .number report.rulesChecked),
    ("files_checked", .number report.filesChecked),
    ("total_findings", .number report.totalFindings),
    ("by_api", .array (report.byApi.map CountEntry.toJson)),
    ("by_category", .array (report.byCategory.map CountEntry.toJson)),
    ("findings", .array (report.findings.map MigrationFinding.toJson))]

end MigrationReport

structure MigrationCheck where
  registry : MigrationRegistry
  targetVersion : String
  category : Option String
deriving Repr

namespace MigrationCheck

def make (registry : MigrationRegistry) (targetVersion : String) (category : Option String) :
    MigrationCheck :=
  ⟨registry, targetVersion, category.filter fun name => !Text.isBlankText name⟩

def admits (check : MigrationCheck) (m : ApiMigration) : Bool :=
  match check.category with
  | none => true
  | some name => Text.sameIgnoringCase m.category name

def rules (check : MigrationCheck) : List ApiMigration :=
  (check.registry.forVersion check.targetVersion).filter check.admits

def run (check : MigrationCheck) (files : List SourceFile) : MigrationReport :=
  let scripts := files.filter SourceFile.isScript
  let findings := scripts.flatMap fun file => scan file.path file.text.toList check.rules
  { targetVersion := check.targetVersion
    rulesChecked := check.rules.length
    filesChecked := scripts.length
    totalFindings := findings.length
    byApi := countBy (findings.map (·.migration.oldApi))
    byCategory := countBy (findings.map (·.migration.category))
    findings }

end MigrationCheck

end ScriptAudit
