import ScriptAudit.Error
import ScriptAudit.Text.Blank
import ScriptAudit.Toml.Document

namespace ScriptAudit

structure PatternConfig where
  includeInfo : Bool
  hotPathsOnly : Bool
  disabledRules : List String
deriving DecidableEq, Repr

structure MigrationConfig where
  targetVersion : String
  category : Option String
deriving DecidableEq, Repr

structure ScanConfig where
  maxFileSize : Option Nat
  extraIgnore : List String
  followSymlinks : Option Bool
deriving DecidableEq, Repr

structure LoggingConfig where
  level : String
  withTarget : Bool
deriving DecidableEq, Repr

structure AuditConfig where
  patterns : PatternConfig
  migration : MigrationConfig
  scan : ScanConfig
  logging : LoggingConfig
deriving DecidableEq, Repr

def PatternConfig.standard : PatternConfig := ⟨true, false, []⟩

def MigrationConfig.standard : MigrationConfig := ⟨"6000.0", none⟩

def LoggingConfig.standard : LoggingConfig := ⟨"warn", false⟩

namespace ScanConfig

def standard : ScanConfig := ⟨none, [], none⟩

-- The greatest size in bytes of a script, by default one mebibyte.
def sizeLimit (config : ScanConfig) : Nat := config.maxFileSize.getD 1048576

def followsLinks (config : ScanConfig) : Bool := config.followSymlinks.getD false

end ScanConfig

def AuditConfig.standard : AuditConfig := ⟨.standard, .standard, .standard, .standard⟩

namespace Toml

-- The fields of a section. An array gives them by their position, and a date gives none.
def fieldOf (part : Option TomlValue) (name : String) (position : Nat) : Option (Option TomlValue) :=
  match part with
  | none => some none
  | some (.table fields) => some (fields.lookup name)
  | some (.array elements) => some elements[position]?
  | some .dateTime => some none
  | some _ => none

def fieldAs {α : Type} (read : TomlValue → Option α) (part : Option TomlValue) (name : String)
    (position : Nat) : Option (Option α) := do
  match ← fieldOf part name position with
  | none => return none
  | some value => return some (← read value)

def asBool : TomlValue → Option Bool
  | .boolean value => some value
  | _ => none

def asString : TomlValue → Option String
  | .string text => some text
  | _ => none

def asNatural : TomlValue → Option Nat
  | .integer value => if 0 ≤ value then some value.toNat else none
  | _ => none

def asStrings : TomlValue → Option (List String)
  | .array elements => elements.mapM asString
  | _ => none

def readPatterns (part : Option TomlValue) : Option PatternConfig := do
  let standard := PatternConfig.standard
  return {
    includeInfo := (← fieldAs asBool part "include_info" 0).getD standard.includeInfo
    hotPathsOnly := (← fieldAs asBool part "hot_paths_only" 1).getD standard.hotPathsOnly
    disabledRules := (← fieldAs asStrings part "disabled_rules" 2).getD standard.disabledRules }

def readMigration (part : Option TomlValue) : Option MigrationConfig := do
  let standard := MigrationConfig.standard
  return {
    targetVersion := (← fieldAs asString part "target_version" 0).getD standard.targetVersion
    category := ← fieldAs asString part "category" 1 }

def readScan (part : Option TomlValue) : Option ScanConfig := do
  return {
    maxFileSize := ← fieldAs asNatural part "max_file_size" 0
    extraIgnore := (← fieldAs asStrings part "extra_ignore" 1).getD []
    followSymlinks := ← fieldAs asBool part "follow_symlinks" 2 }

def readLogging (part : Option TomlValue) : Option LoggingConfig := do
  let standard := LoggingConfig.standard
  return {
    level := (← fieldAs asString part "level" 0).getD standard.level
    withTarget := (← fieldAs asBool part "with_target" 1).getD standard.withTarget }

def readConfig (fields : List (String × TomlValue)) : Option AuditConfig := do
  return {
    patterns := ← readPatterns (fields.lookup "patterns")
    migration := ← readMigration (fields.lookup "migration")
    scan := ← readScan (fields.lookup "scan")
    logging := ← readLogging (fields.lookup "logging") }

end Toml

namespace AuditConfig

def validate (config : AuditConfig) : Except ConfigError AuditConfig :=
  if Text.isBlankText config.migration.targetVersion then
    .error (.invalidValue "migration.target_version" "must not be empty")
  else if config.scan.maxFileSize == some 0 then
    .error (.invalidValue "scan.max_file_size" "must be greater than zero")
  else .ok config

def ofToml (text : String) : Except ConfigError AuditConfig :=
  match (Toml.parse text).bind Toml.readConfig with
  | none => .error (.malformed "not a configuration")
  | some config => config.validate

end AuditConfig

end ScriptAudit
