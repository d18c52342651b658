import ScriptAudit.Text.LineIndex

namespace ScriptAudit

inductive StringForm where
  | regular
  | verbatim
  | raw
deriving DecidableEq, Repr

inductive Kind where
  | compilationUnit
  | classDeclaration
  | structDeclaration
  | interfaceDeclaration
  | recordDeclaration
  | enumDeclaration
  | delegateDeclaration
  | namespaceDeclaration
  | methodDeclaration
  | constructorDeclaration
  | operatorDeclaration
  | propertyDeclaration
  | eventDeclaration
  | fieldDeclaration
  | accessor
  | directive
  | conditionalRegion
  | attributes
  | baseList
  | constructorBase
  | typeParameters
  | constraint
  | parameter
  | parameters
  | argument
  | arguments
  | body
  | block
  | statement
  | localFunction
  | declarator
  | pattern
  | type
  | comment
  | identifier
  | genericName
  | qualifiedName
  | selfReference
  | literal
  | stringLiteral (form : StringForm)
  | interpolatedString
  | invocation
  | memberAccess
  | elementAccess
  | conditionalAccess
  | assignment
  | binary
  | prefixUnary (symbol : String)
  | postfixUnary
  | cast
  | parenthesized
  | tuple
  | bracketed
  | lambda
  | creation
  | awaiting
  | otherExpression
  | operator (symbol : String)
deriving DecidableEq, Repr

inductive Field where
  | name
  | function
  | expression
  | left
  | right
  | operator
deriving DecidableEq, Repr

structure Label where
  kind : Kind
  field : Option Field
  start : Nat
  stop : Nat
  row : Nat
  byteColumn : Nat
deriving DecidableEq, Repr

inductive SyntaxNode where
  | mk (label : Label) (children : List SyntaxNode)
deriving Repr

def Kind.isTypeDeclaration : Kind → Bool
  | .classDeclaration | .structDeclaration | .interfaceDeclaration | .recordDeclaration => true
  | _ => false

namespace SyntaxNode

def label : SyntaxNode → Label
  | .mk label _ => label

def children : SyntaxNode → List SyntaxNode
  | .mk _ children => children

def kind (node : SyntaxNode) : Kind := node.label.kind

def isTypeDeclaration (node : SyntaxNode) : Bool := node.kind.isTypeDeclaration

def inField (field : Field) : SyntaxNode → SyntaxNode
  | .mk label children => .mk { label with field := some field } children

def child? (node : SyntaxNode) (field : Field) : Option SyntaxNode :=
  node.children.find? fun child => child.label.field == some field

mutual

-- The proper descendants of a node, each before its own descendants, from left to right.
def descendants : SyntaxNode → List SyntaxNode
  | .mk _ children => forest children

def forest : List SyntaxNode → List SyntaxNode
  | [] => []
  | node :: rest => node :: (descendants node ++ forest rest)

end

mutual

-- The methods below a node that no type declaration below it encloses.
def ownedMethods : SyntaxNode → List SyntaxNode
  | .mk _ children => ownedAmong children

def ownedAmong : List SyntaxNode → List SyntaxNode
  | [] => []
  | node :: rest =>
    (if node.kind == .methodDeclaration then [node] else []) ++
      ((if node.isTypeDeclaration then [] else ownedMethods node) ++ ownedAmong rest)

end

mutual

-- The proper descendants of a node, each with its nearest enclosing type declaration, where the first
-- argument is the one around the node's children.
def placed (enclosing : Option SyntaxNode) : SyntaxNode → List (SyntaxNode × Option SyntaxNode)
  | .mk _ children => placedAmong enclosing children

def placedAmong (enclosing : Option SyntaxNode) :
    List SyntaxNode → List (SyntaxNode × Option SyntaxNode)
  | [] => []
  | node :: rest =>
    (node, enclosing) ::
      (placed (if node.isTypeDeclaration then some node else enclosing) node ++
        placedAmong enclosing rest)

end

-- The source text that a node covers, empty where that is no slice of the source.
def text (node : SyntaxNode) (source : List Char) : List Char :=
  (Text.slice source node.label.start node.label.stop).getD []

-- Where a node starts, its column counted in characters of the source.
def position (node : SyntaxNode) (source : List Char) : Text.Position :=
  let start := node.label.start
  let column :=
    match Text.slice source (start - node.label.byteColumn) start with
    | some before => before.length
    | none => node.label.byteColumn
  ⟨UInt32.ofNat node.label.row, UInt32.ofNat column⟩

end SyntaxNode

end ScriptAudit
