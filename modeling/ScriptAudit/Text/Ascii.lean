namespace ScriptAudit.Text

def foldAscii (text : List Char) : List Char := text.map Char.toLower

def sameFolded (a b : List Char) : Bool := foldAscii a == foldAscii b

def sameIgnoringCase (a b : String) : Bool := sameFolded a.toList b.toList

end ScriptAudit.Text
