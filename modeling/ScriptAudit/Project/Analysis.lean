import ScriptAudit.Migration.Check
import ScriptAudit.Pattern.Analysis
import ScriptAudit.Pattern.Report
import ScriptAudit.Project.Detection
import ScriptAudit.Project.Discovery
import ScriptAudit.Syntax.Grammar.Script

namespace ScriptAudit

structure ProjectAnalysis where
  scriptsFound : Nat
  scriptsParsed : Nat
  scriptsWithErrors : Nat
  engineVersion : Option String
  patterns : PatternReport
  migrations : MigrationReport
deriving DecidableEq, Repr

namespace PatternConfig

def rules (config : PatternConfig) : PatternRuleSet := .withDisabled config.disabledRules

def reportOptions (config : PatternConfig) : PatternReportOptions := ⟨config.includeInfo, config.hotPathsOnly⟩

end PatternConfig

def MigrationConfig.check (config : MigrationConfig) : MigrationCheck :=
  .make .builtin config.targetVersion config.category

def SourceFile.find (tree : FileTree) (path : String) : Except ProjectError SourceFile :=
  if tree.exists? path then SourceFile.read tree path else .error (.notFound path)

namespace ScriptParser

-- A script that the parser fails on is left out.
def parseScripts (parser : ScriptParser) (sources : List SourceFile) : List ParsedScript :=
  (sources.filter SourceFile.isScript).filterMap fun source => (parser.parse source.path source.text).toOption

def analyzeSources (parser : ScriptParser) (root : String) (sources : List SourceFile) (config : AuditConfig)
    (scriptsFound : Nat) (engineVersion : Option String) : ProjectAnalysis :=
  let scripts := parser.parseScripts sources
  let issues := config.patterns.rules.analyzeScripts scripts (TypeIndex.ofScripts scripts).hierarchy
  { scriptsFound
    scriptsParsed := scripts.length
    scriptsWithErrors := (scripts.filter (·.hasErrors)).length
    engineVersion
    patterns := .build root issues config.patterns.reportOptions
    migrations := config.migration.check.run sources }

def analyzeProject (parser : ScriptParser) (tree : FileTree) (root : String) (config : AuditConfig) :
    Except ProjectError ProjectAnalysis := do
  let paths ← collectScripts tree root config.scan
  return parser.analyzeSources root (loadSources tree paths) config paths.length (tree.engineVersion root)

def parseFile (parser : ScriptParser) (tree : FileTree) (path : String) : Except AuditError ParsedScript := do
  let source ← (SourceFile.find tree path).mapError .project
  (parser.parse path source.text).mapError .parse

end ScriptParser

-- With the grammar of this library no parse fails.

def analyzeSources (root : String) (sources : List SourceFile) (config : AuditConfig) (scriptsFound : Nat)
    (engineVersion : Option String) : ProjectAnalysis :=
  ScriptParser.ofGrammar.analyzeSources root sources config scriptsFound engineVersion

def analyzeProject (tree : FileTree) (root : String) (config : AuditConfig) : Except ProjectError ProjectAnalysis :=
  ScriptParser.ofGrammar.analyzeProject tree root config

def parseFile (tree : FileTree) (path : String) : Except ProjectError ParsedScript := do
  return .parse path (← SourceFile.find tree path).text

theorem parseFile_ofGrammar (tree : FileTree) (path : String) :
    ScriptParser.ofGrammar.parseFile tree path = (parseFile tree path).mapError .project := by
  unfold ScriptParser.parseFile parseFile
  cases SourceFile.find tree path with
  | error _ => rfl
  | ok _ => rfl

end ScriptAudit
