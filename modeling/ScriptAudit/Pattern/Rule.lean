import ScriptAudit.Text.Ascii
import ScriptAudit.Text.Blank

namespace ScriptAudit

inductive Severity where
  | error
  | warning
  | info
deriving DecidableEq, Repr

def Severity.name : Severity → String
  | .error => "Error"
  | .warning => "Warning"
  | .info => "Info"

inductive PatternRule where
  | expensiveCall
  | stringAllocation
  | debugLog
  | mainCamera
deriving DecidableEq, Repr

namespace PatternRule

def all : List PatternRule := [.expensiveCall, .stringAllocation, .debugLog, .mainCamera]

def code : PatternRule → String
  | .expensiveCall => "UPA0001"
  | .stringAllocation => "UPA0002"
  | .debugLog => "UPA0003"
  | .mainCamera => "UPA0004"

def title : PatternRule → String
  | .expensiveCall => "Expensive call in hot path"
  | .stringAllocation => "String operation in hot path"
  | .debugLog => "Debug logging in hot path"
  | .mainCamera => "Camera.main usage"

def ofCode (code : String) : Option PatternRule :=
  all.find? fun rule => Text.sameIgnoringCase rule.code (Text.trimmed code)

def hotPathOnly : PatternRule → Bool
  | .mainCamera => false
  | _ => true

def rank : PatternRule → Nat
  | .expensiveCall => 0
  | .stringAllocation => 1
  | .debugLog => 2
  | .mainCamera => 3

end PatternRule

def performanceCategory : String := "Performance"

end ScriptAudit
