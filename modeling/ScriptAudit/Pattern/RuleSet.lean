import ScriptAudit.Pattern.Finding

namespace ScriptAudit

structure PatternRuleSet where
  rules : List PatternRule
  disabled : List PatternRule
deriving DecidableEq, Repr

namespace PatternRuleSet

def empty : PatternRuleSet := ⟨[], []⟩

def builtin : PatternRuleSet := ⟨PatternRule.all, []⟩

def register (set : PatternRuleSet) (rule : PatternRule) : PatternRuleSet :=
  { set with rules := set.rules ++ [rule] }

def disable (set : PatternRuleSet) (rule : PatternRule) : PatternRuleSet :=
  { set with disabled := rule :: set.disabled }

def enable (set : PatternRuleSet) (rule : PatternRule) : PatternRuleSet :=
  { set with disabled := set.disabled.filter (· != rule) }

def isEnabled (set : PatternRuleSet) (rule : PatternRule) : Bool := !set.disabled.contains rule

def count (set : PatternRuleSet) : Nat := set.rules.length

def enabledCount (set : PatternRuleSet) : Nat := (set.rules.filter set.isEnabled).length

-- The built-in rules without those that the codes name. A code that names none has no effect.
def withDisabled (codes : List String) : PatternRuleSet :=
  (codes.filterMap PatternRule.ofCode).foldl disable builtin

def applies (set : PatternRuleSet) (context : MethodContext) (rule : PatternRule) : Bool :=
  set.isEnabled rule && (!rule.hotPathOnly || context.isHotPath)

def run (set : PatternRuleSet) (context : MethodContext) : List PatternIssue :=
  (set.rules.filter (set.applies context)).flatMap context.check

end PatternRuleSet

end ScriptAudit
