import ScriptAudit.Json
import ScriptAudit.Pattern.Rule

namespace ScriptAudit

structure PatternIssue where
  rule : PatternRule
  title : String
  description : String
  severity : Severity
  category : String
  file : String
  line : UInt32
  column : UInt32
  codeSnippet : String
  suggestion : Option String
  method : String
  inHotPath : Bool
deriving DecidableEq, Repr

namespace PatternIssue

def toJson (issue : PatternIssue) : Json :=
  .object [("id", .string issue.rule.code), ("title", .string issue.title),
    ("description", .string issue.description), ("severity", .string issue.severity.name),
    ("category", .string issue.category), ("file_path", .string issue.file),
    ("line", .number issue.line.toNat), ("column", .number issue.column.toNat),
    ("code_snippet", .string issue.codeSnippet), ("suggestion", .ofOption issue.suggestion),
    ("method", .string issue.method), ("in_hot_path", .bool issue.inHotPath)]

end PatternIssue

end ScriptAudit
