import ScriptAudit.Syntax.Node
import ScriptAudit.Text.Parser

namespace ScriptAudit.Syntax

open Text (Parser Place)

def nodeFrom (kind : Kind) (start : Place) (children : List SyntaxNode) : Parser SyntaxNode := fun stop =>
  some (.mk ⟨kind, none, start.offset, stop.offset, start.row, start.byteColumn⟩ children, stop)

def nodeOver (kind : Kind) (first : SyntaxNode) (others : List SyntaxNode) : Parser SyntaxNode := fun stop =>
  let label := first.label
  some (.mk ⟨kind, none, label.start, stop.offset, label.row, label.byteColumn⟩ (first :: others), stop)

end ScriptAudit.Syntax
