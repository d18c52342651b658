namespace ScriptAudit

inductive XmlEvent where
  | opening (name : List Char)
  | closing (name : List Char)
  | emptyElement (name : List Char)
  | text (content : List Char)
  | characterData (content : List Char)
  | other
deriving DecidableEq, Repr

-- The events of a document in order, or those in front of the first fault that reading it meets.
structure XmlReading where
  events : List XmlEvent
  isComplete : Bool
deriving DecidableEq, Repr

-- Any reader of documents. Entities are not replaced before that is asked for, and may be unknown.
structure XmlReader where
  read : List Char → XmlReading
  unescape : List Char → Option (List Char)
  localName : List Char → List Char

def Xml.isBlank (c : Char) : Bool := c == ' ' || c == '\t' || c == '\r' || c == '\n'

end ScriptAudit
