import ScriptAudit.Syntax.Grammar.Declaration
import ScriptAudit.Syntax.Script

namespace ScriptAudit

namespace Syntax

open Text (Parser Place)
open Text.Parser

def phrase (rules : Rules) : Phrase → Parser SyntaxNode
  | .type => typePhrase rules
  | .expression least arrows => expressionPhrase rules least arrows
  | .pattern => patternPhrase rules
  | .statement => statementPhrase rules
  | .member => memberPhrase rules
  | .item => itemPhrase rules

def rulesOfDepth : Nat → Rules
  | 0, _ => failure
  | depth + 1, p => phrase (rulesOfDepth depth) p

-- A depth that no nesting in a text exceeds: a character opens only a few phrases.
def depthFor (text : List Char) : Nat := 16 * (text.length + 4)

def shebang : Parser Unit := do
  exactly ['#', '!']
  toLineEnd

def atEnd : Parser Unit := do
  skipTrivia
  if (← ahead).isEmpty then return else failure

def unit (text : List Char) : Parser SyntaxNode := do
  let rules := rulesOfDepth (depthFor text)
  let start ← get
  let _ ← orNone shebang
  let items ← many (rules .item)
  atEnd
  nodeFrom .compilationUnit start items

def tree? (text : List Char) : Option SyntaxNode := (unit text (.ofText text)).map (·.1)

def emptyTree (text : List Char) : SyntaxNode :=
  .mk ⟨.compilationUnit, none, 0, Text.byteSize text, 0, 0⟩ []

-- This grammar recovers nothing from a text with errors.
def treeOf (text : List Char) : SyntaxTree :=
  match tree? text with
  | some root => ⟨root, false⟩
  | none => ⟨emptyTree text, true⟩

end Syntax

def ParsedScript.parse (path text : String) : ParsedScript := .ofTree path text (Syntax.treeOf text.toList)

namespace ScriptParser

def ofGrammar : ScriptParser := ⟨true, fun text => some (Syntax.treeOf text)⟩

theorem parse_ofGrammar (path text : String) : ofGrammar.parse path text = .ok (.parse path text) := rfl

end ScriptParser

end ScriptAudit
