import ScriptAudit.Path

namespace ScriptAudit

structure SourceFile where
  path : String
  text : String
deriving DecidableEq, Repr

def scriptExtension : String := "cs"

def isScriptPath (path : String) : Bool := Path.extension path == some scriptExtension

def SourceFile.isScript (file : SourceFile) : Bool := isScriptPath file.path

end ScriptAudit
