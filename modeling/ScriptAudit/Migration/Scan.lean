import ScriptAudit.Migration.Registry
import ScriptAudit.Text.Blank
import ScriptAudit.Text.LineIndex

namespace ScriptAudit

open Text

-- The last two segments of a documented call, less any qualifier in parentheses. A blank before the
-- qualifier stays.
def searchTerm (oldApi : List Char) : List Char := lastTwoSegments '.' (beforeFirst '(' oldApi)

def ApiMigration.term (m : ApiMigration) : List Char := searchTerm m.oldApi.toList

structure MigrationFinding where
  migration : ApiMigration
  file : String
  line : UInt32
  column : UInt32
  offset : Nat
  codeSnippet : String
deriving DecidableEq, Repr

namespace MigrationFinding

def toJson (finding : MigrationFinding) : Json :=
  .object [("migration", finding.migration.toJson), ("file", .string finding.file),
    ("line", .number finding.line.toNat), ("column", .number finding.column.toNat),
    ("offset", .number finding.offset), ("code_snippet", .string finding.codeSnippet)]

end MigrationFinding

def findingAt (file : String) (index : LineIndex) (m : ApiMigration) (offset : Nat) : MigrationFinding :=
  let position := index.position offset
  { migration := m
    file
    line := position.line
    column := position.column
    offset
    codeSnippet := String.ofList (trim (index.lineText position.line.toNat)) }

-- The findings of one migration. An empty term finds nothing.
def scanFor (file : String) (index : LineIndex) (m : ApiMigration) : List MigrationFinding :=
  if m.term.isEmpty then []
  else (occurrences m.term index.text).map (findingAt file index m)

def scan (file : String) (text : List Char) (rules : List ApiMigration) : List MigrationFinding :=
  rules.flatMap (scanFor file (LineIndex.ofText text))

end ScriptAudit
