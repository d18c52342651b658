import ScriptAudit.EngineVersion
import ScriptAudit.Text.Ascii
import ScriptAudit.Text.Lowercase
import ScriptAudit.Text.Occurrence
import ScriptAudit.Json

namespace ScriptAudit

structure ApiMigration where
  oldApi : String
  newApi : String
  deprecatedVersion : String
  removedVersion : Option String
  category : String
  notes : String
deriving DecidableEq, Repr

namespace ApiMigration

def deprecatedIn (m : ApiMigration) : EngineVersion := .ofString m.deprecatedVersion

def removedIn (m : ApiMigration) : Option EngineVersion := m.removedVersion.map .ofString

def toJson (m : ApiMigration) : Json :=
  .object [("old_api", .string m.oldApi), ("new_api", .string m.newApi),
    ("deprecated_version", .string m.deprecatedVersion),
    ("removed_version", .ofOption m.removedVersion),
    ("category", .string m.category), ("notes", .string m.notes)]

end ApiMigration

structure MigrationRegistry where
  entries : List ApiMigration
deriving Repr

namespace MigrationRegistry

def size (registry : MigrationRegistry) : Nat := registry.entries.length

def isEmpty (registry : MigrationRegistry) : Bool := registry.entries.isEmpty

-- The rows deprecated at or before a version. When a call was removed does not matter.
def forVersion (registry : MigrationRegistry) (target : String) : List ApiMigration :=
  registry.entries.filter fun m => m.deprecatedIn.le (.ofString target)

def search (registry : MigrationRegistry) (needle : String) : List ApiMigration :=
  let lowered := Text.lower needle.toList
  registry.entries.filter fun m => Text.occurs lowered (Text.lower m.oldApi.toList)

def categories (registry : MigrationRegistry) : List String :=
  (registry.entries.map (·.category)).eraseDups.mergeSort fun a b => decide (a ≤ b)

def inCategory (registry : MigrationRegistry) (category : String) : List ApiMigration :=
  registry.entries.filter fun m => Text.sameIgnoringCase m.category category

end MigrationRegistry

end ScriptAudit
