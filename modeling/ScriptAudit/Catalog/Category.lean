import ScriptAudit.Text.Ascii
import ScriptAudit.Text.Blank
import ScriptAudit.Text.Bytes
import ScriptAudit.Text.Word

namespace ScriptAudit

inductive DiagnosticCategory where
  | all
  | messages
  | nullChecking
  | performance
  | bestPractices
deriving DecidableEq, Repr

namespace DiagnosticCategory

def list : List DiagnosticCategory := [.all, .messages, .nullChecking, .performance, .bestPractices]

def name : DiagnosticCategory → String
  | .all => "all"
  | .messages => "messages"
  | .nullChecking => "nullchecking"
  | .performance => "performance"
  | .bestPractices => "bestpractices"

def storedName : DiagnosticCategory → String
  | .all => "All"
  | .messages => "Messages"
  | .nullChecking => "NullChecking"
  | .performance => "Performance"
  | .bestPractices => "BestPractices"

-- Reads a name as a user gives it, or one of the short forms `null` and `practices`.
def ofName (name : String) : Option DiagnosticCategory :=
  let folded := String.ofList (Text.foldAscii (Text.trim name.toList))
  if folded == "null" then some .nullChecking
  else if folded == "practices" then some .bestPractices
  else list.find? (·.name == folded)

def ofNameOrAll (name : Option String) : DiagnosticCategory := (name.bind ofName).getD .all

def range : DiagnosticCategory → Option (UInt32 × UInt32)
  | .all => none
  | .messages => some (1, 15)
  | .nullChecking => some (16, 25)
  | .performance => some (26, 35)
  | .bestPractices => some (36, 4294967295)

end DiagnosticCategory

def analyzerMark : List Char := ['U', 'N', 'T']

def suppressorMark : List Char := ['U', 'S', 'P']

def hasMark (mark id : List Char) : Bool :=
  match Text.takeBytes 3 id with
  | none => false
  | some head => Text.sameFolded head mark

def ruleNumber (id : String) : Option UInt32 :=
  if hasMark analyzerMark id.toList then Text.readWord (Text.trim (id.toList.drop 3)) else none

def classifies (id : String) (category : DiagnosticCategory) : Bool :=
  match category.range with
  | none => true
  | some (least, greatest) =>
    match ruleNumber id with
    | none => false
    | some number => decide (least ≤ number) && decide (number ≤ greatest)

def isEngineDiagnostic (id : String) : Bool :=
  hasMark analyzerMark id.toList || hasMark suppressorMark id.toList

end ScriptAudit
