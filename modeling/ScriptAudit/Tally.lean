import ScriptAudit.Json

namespace ScriptAudit

structure CountEntry where
  name : String
  count : Nat
deriving DecidableEq, Repr

namespace CountEntry

def ranksBefore (a b : CountEntry) : Bool :=
  decide (b.count < a.count) || (a.count == b.count && decide (a.name ≤ b.name))

def toJson (entry : CountEntry) : Json :=
  .object [("name", .string entry.name), ("count", .number entry.count)]

end CountEntry

def countBy (names : List String) : List CountEntry :=
  (names.eraseDups.map fun name => CountEntry.mk name (names.count name)).mergeSort CountEntry.ranksBefore

end ScriptAudit
