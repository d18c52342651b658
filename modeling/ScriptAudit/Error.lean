namespace ScriptAudit

inductive ParseError where
  | grammarNotFound (language : String)
  | treeNotBuilt (path : String) (reason : String)
deriving DecidableEq, Repr

inductive ProjectError where
  | notFound (path : String)
  | unreadable (path : String) (reason : String)
  | walk (reason : String)
deriving DecidableEq, Repr

inductive ConfigError where
  | malformed (reason : String)
  | invalidValue (field : String) (reason : String)
deriving DecidableEq, Repr

inductive AuditError where
  | parse (cause : ParseError)
  | project (cause : ProjectError)
  | config (cause : ConfigError)
deriving DecidableEq, Repr

namespace ParseError

def message : ParseError → String
  | .grammarNotFound language => "Grammar not available for " ++ language
  | .treeNotBuilt path reason => "Tree-sitter failed on " ++ path ++ ": " ++ reason

def code : ParseError → String
  | .grammarNotFound _ => "GRAMMAR_NOT_FOUND"
  | .treeNotBuilt _ _ => "PARSE_ERROR"

end ParseError

namespace ProjectError

def message : ProjectError → String
  | .notFound path => "Path not found: " ++ path
  | .unreadable path reason => "I/O error on " ++ path ++ ": " ++ reason
  | .walk reason => "Directory walk failed: " ++ reason

def code : ProjectError → String
  | .notFound _ => "FILE_NOT_FOUND"
  | .unreadable _ _ => "IO_ERROR"
  | .walk _ => "WALK_ERROR"

end ProjectError

namespace ConfigError

def message : ConfigError → String
  | .malformed reason => "Invalid TOML: " ++ reason
  | .invalidValue field reason => "Invalid value for " ++ field ++ ": " ++ reason

def code (_ : ConfigError) : String := "CONFIG_ERROR"

end ConfigError

namespace AuditError

def message : AuditError → String
  | .parse cause => "parse error: " ++ cause.message
  | .project cause => "project error: " ++ cause.message
  | .config cause => "config error: " ++ cause.message

def code : AuditError → String
  | .parse cause => cause.code
  | .project cause => cause.code
  | .config cause => cause.code

end AuditError

end ScriptAudit
