import ScriptAudit.Text.Blank
import ScriptAudit.Text.Occurrence
import ScriptAudit.Text.Pieces

namespace ScriptAudit

open Text

namespace TypeName

-- The simple name of a written one: what stands before the first `<`, behind the last `::` and then
-- behind the last dot, without white space at the ends.
def simple (name : List Char) : List Char :=
  trim (afterLast '.' (afterLastPair ':' (beforeFirst '<' (trim name))))

def normalize (name : String) : String := String.ofList (simple name.toList)

def componentBase : String := "MonoBehaviour"

def qualifiedComponentBase : String := "UnityEngine.MonoBehaviour"

def isComponentRoot (base : String) : Bool :=
  normalize base == componentBase || Text.contains base qualifiedComponentBase

end TypeName

end ScriptAudit
