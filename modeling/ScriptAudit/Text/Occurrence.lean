import ScriptAudit.Text.Bytes

namespace ScriptAudit.Text

def occurs (term : List Char) : List Char → Bool
  | [] => term.isEmpty
  | c :: rest => term.isPrefixOf (c :: rest) || occurs term rest

def contains (text term : String) : Bool := occurs term.toList text.toList

-- The first argument counts the characters of the last occurrence that are still to be passed, the
-- second is the byte offset of the text that is left.
def occurrencesFrom (term : List Char) : Nat → Nat → List Char → List Nat
  | _, _, [] => []
  | pending + 1, offset, c :: rest => occurrencesFrom term pending (offset + c.utf8Size) rest
  | 0, offset, c :: rest =>
    if term.isPrefixOf (c :: rest) then
      offset :: occurrencesFrom term (term.length - 1) (offset + c.utf8Size) rest
    else occurrencesFrom term 0 (offset + c.utf8Size) rest

def occurrences (term text : List Char) : List Nat := occurrencesFrom term 0 0 text

end ScriptAudit.Text
