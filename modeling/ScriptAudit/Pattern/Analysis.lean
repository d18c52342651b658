import ScriptAudit.HotPath
import ScriptAudit.Pattern.RuleSet
import ScriptAudit.TypeIndex

namespace ScriptAudit

def methodsOf (script : ParsedScript) (declaration : SyntaxNode) : List MethodContext :=
  declaration.ownedMethods.filterMap fun method =>
    (method.declaredName script.source).map fun name =>
      { file := script.path, source := script.source, method, name, isHotPath := isHotPath name }

def componentsOf (script : ParsedScript) (hierarchy : TypeHierarchy) : List SyntaxNode :=
  script.typeDeclarations.filter (isComponentDeclaration hierarchy script.source)

namespace PatternRuleSet

-- The issues of a script. Ancestry that the hierarchy does not resolve makes no component.
def analyze (set : PatternRuleSet) (script : ParsedScript) (hierarchy : TypeHierarchy) : List PatternIssue :=
  ((componentsOf script hierarchy).flatMap (methodsOf script)).flatMap set.run

-- The issues of a script by the types it declares itself.
def analyzeStandalone (set : PatternRuleSet) (script : ParsedScript) : List PatternIssue :=
  set.analyze script (TypeIndex.ofScripts [script]).hierarchy

def analyzeScripts (set : PatternRuleSet) (scripts : List ParsedScript) (hierarchy : TypeHierarchy) :
    List PatternIssue :=
  scripts.flatMap fun script => set.analyze script hierarchy

end PatternRuleSet

end ScriptAudit
