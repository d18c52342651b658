import ScriptAudit.Pattern.ExpensiveCall
import ScriptAudit.Pattern.Issue
import ScriptAudit.Syntax.Query

namespace ScriptAudit

structure MethodContext where
  file : String
  source : List Char
  method : SyntaxNode
  name : String
  isHotPath : Bool
deriving Repr

structure Remark where
  title : String
  description : String
  severity : Severity
  suggestion : String
deriving DecidableEq, Repr

namespace Remark

def expensiveCall (callee advice method : String) : Remark where
  title := "Expensive call '" ++ callee ++ "' in hot path"
  description := "'" ++ callee ++ "' is called in '" ++ method ++
    "' which runs frequently. This can cause performance issues."
  severity := .warning
  suggestion := advice

def concatenation (method : String) : Remark where
  title := "String concatenation in hot path"
  description := "String concatenation in '" ++ method ++ "' allocates memory every frame."
  severity := .warning
  suggestion :=
    "Use StringBuilder, string.Format with cached values, or avoid string operations in Update"

def interpolation (method : String) : Remark where
  title := "String interpolation in hot path"
  description := "String interpolation in '" ++ method ++ "' allocates memory every frame."
  severity := .warning
  suggestion := "Cache formatted strings or avoid string operations in Update"

def logging (method : String) : Remark where
  title := "Debug logging in hot path"
  description := "Debug.Log in '" ++ method ++
    "' should be removed or conditionally compiled for release builds."
  severity := .info
  suggestion := "Wrap in #if UNITY_EDITOR or [Conditional(\"UNITY_EDITOR\")] attribute, or remove for release"

def mainCamera (method : String) (isHotPath : Bool) : Remark where
  title := "Camera.main usage"
  description :=
    if isHotPath then "Camera.main in '" ++ method ++ "' calls FindObjectByTag every frame."
    else "Camera.main calls FindObjectByTag internally. Consider caching the reference."
  severity := if isHotPath then .warning else .info
  suggestion :=
    "Cache Camera.main reference in Awake/Start: private Camera _mainCamera; void Awake() => _mainCamera = Camera.main;"

end Remark

def logMethods : List String := ["Log", "LogWarning", "LogError"]

def expensiveCallee (source : List Char) (node : SyntaxNode) : Option (String × String) :=
  if node.kind == .invocation then do
    let callee := String.ofList (← node.calleeName source)
    return (callee, ← expensiveCallSuggestion callee)
  else none

def isConcatenation (node : SyntaxNode) : Bool :=
  node.isSum && (node.isLiteralOperand .left || node.isLiteralOperand .right)

def isDebugLog (source : List Char) (node : SyntaxNode) : Bool :=
  node.kind == .invocation &&
    match (node.child? .function).bind (·.memberAccessParts source) with
    | none => false
    | some (receiver, name) => receiver == "Debug".toList && logMethods.contains (String.ofList name)

def isMainCamera (source : List Char) (node : SyntaxNode) : Bool :=
  match node.memberAccessParts source with
  | none => false
  | some (receiver, name) => receiver == "Camera".toList && name == "main".toList

def PatternRule.remark? (rule : PatternRule) (context : MethodContext) (node : SyntaxNode) : Option Remark :=
  match rule with
  | .expensiveCall =>
    (expensiveCallee context.source node).map fun (callee, advice) =>
      .expensiveCall callee advice context.name
  | .stringAllocation =>
    if isConcatenation node then some (.concatenation context.name)
    else if node.kind == .interpolatedString then some (.interpolation context.name)
    else none
  | .debugLog => if isDebugLog context.source node then some (.logging context.name) else none
  | .mainCamera =>
    if isMainCamera context.source node then some (.mainCamera context.name context.isHotPath) else none

namespace MethodContext

def issue (context : MethodContext) (rule : PatternRule) (node : SyntaxNode) (remark : Remark) :
    PatternIssue :=
  let position := node.position context.source
  { rule
    title := remark.title
    description := remark.description
    severity := remark.severity
    category := performanceCategory
    file := context.file
    line := position.line
    column := position.column
    codeSnippet := String.ofList (node.text context.source)
    suggestion := some remark.suggestion
    method := context.name
    inHotPath := context.isHotPath }

def check (context : MethodContext) (rule : PatternRule) : List PatternIssue :=
  context.method.walk.filterMap fun node =>
    (rule.remark? context node).map (context.issue rule node)

end MethodContext

end ScriptAudit
