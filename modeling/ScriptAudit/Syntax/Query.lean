import ScriptAudit.Syntax.Cursor
import ScriptAudit.Text.Blank

namespace ScriptAudit.SyntaxNode

open Text

def declaredName (node : SyntaxNode) (source : List Char) : Option String :=
  match node.child? .name with
  | none => none
  | some name =>
    let text := name.text source
    if text.isEmpty then none else some (String.ofList text)

-- Only operators and other marks have no name of their own in the grammar.
def isNamed (node : SyntaxNode) : Bool :=
  match node.kind with
  | .operator _ => false
  | _ => true

-- What an entry of a base list contributes: of a base with arguments in one entry, only the base.
def baseOfEntry (entry : SyntaxNode) : SyntaxNode :=
  if entry.kind == .constructorBase then (entry.children.find? isNamed).getD entry else entry

def basesOfList (list : SyntaxNode) (source : List Char) : List String :=
  (list.children.filter isNamed).filterMap fun entry =>
    let text := trim ((baseOfEntry entry).text source)
    if text.isEmpty then none else some (String.ofList text)

def declaredBases (node : SyntaxNode) (source : List Char) : List String :=
  (node.children.filter (·.kind == .baseList)).flatMap (basesOfList · source)

def simpleName (source : List Char) : SyntaxNode → Option (List Char)
  | .mk label children =>
    match label.kind with
    | .identifier => some ((SyntaxNode.mk label children).text source)
    | .genericName => (children.find? (·.kind == .identifier)).map (·.text source)
    | .memberAccess =>
      match children.attach.find? fun child => child.1.label.field == some .name with
      | none => none
      | some ⟨name, _⟩ => simpleName source name
    | _ => none
termination_by node => sizeOf node
decreasing_by
  rename_i member
  have := List.sizeOf_lt_of_mem member
  simp only [SyntaxNode.mk.sizeOf_spec]
  omega

def calleeName (invocation : SyntaxNode) (source : List Char) : Option (List Char) :=
  (invocation.child? .function).bind (simpleName source)

def memberAccessParts (node : SyntaxNode) (source : List Char) : Option (List Char × List Char) :=
  if node.kind == .memberAccess then do
    let receiver ← node.child? .expression
    let name ← (← node.child? .name).simpleName source
    return (trim (receiver.text source), name)
  else none

def isStringLiteral (node : SyntaxNode) : Bool :=
  match node.kind with
  | .stringLiteral _ => true
  | _ => false

def isSum (node : SyntaxNode) : Bool :=
  node.kind == .binary &&
    match node.child? .operator with
    | none => false
    | some sign => sign.kind == .operator "+"

def isLiteralOperand (node : SyntaxNode) (side : Field) : Bool :=
  match node.child? side with
  | none => false
  | some operand => operand.isStringLiteral

end ScriptAudit.SyntaxNode
