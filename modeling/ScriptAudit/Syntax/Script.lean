import ScriptAudit.Error
import ScriptAudit.Syntax.Query
import ScriptAudit.Text.Quoted

namespace ScriptAudit

-- The tree of a text. Where the text has errors, it is what could be recovered.
structure SyntaxTree where
  root : SyntaxNode
  hasErrors : Bool
deriving Repr

structure ParsedScript where
  path : String
  source : List Char
  root : SyntaxNode
  hasErrors : Bool
deriving Repr

namespace ParsedScript

def ofTree (path text : String) (tree : SyntaxTree) : ParsedScript := ⟨path, text.toList, tree.root, tree.hasErrors⟩

def size (script : ParsedScript) : Nat := Text.byteSize script.source

-- A line that describes a script without errors.
def summary (script : ParsedScript) : String :=
  "ParsedScript \x7b path: " ++ Text.Quoted.quote script.path ++ ", bytes: " ++ toString script.size ++
    ", error_count: 0 \x7d"

def typeDeclarations (script : ParsedScript) : List SyntaxNode := script.root.typeDeclarations

end ParsedScript

-- Any parser for scripts: its grammar may not load, and it may give up on a text.
structure ScriptParser where
  hasGrammar : Bool
  tree? : List Char → Option SyntaxTree

namespace ScriptParser

def parse (parser : ScriptParser) (path text : String) : Except ParseError ParsedScript :=
  if parser.hasGrammar then
    match parser.tree? text.toList with
    | none => .error (.treeNotBuilt path "tree-sitter returned None")
    | some tree => .ok (.ofTree path text tree)
  else .error (.grammarNotFound "c_sharp")

theorem path_of_parse {parser : ScriptParser} {path text : String} {script : ParsedScript}
    (parsed : parser.parse path text = .ok script) : script.path = path := by
  unfold parse at parsed
  split at parsed
  · cases tree : parser.tree? text.toList with
    | none => simp [tree] at parsed
    | some tree =>
      simp only [tree, Except.ok.injEq] at parsed
      rw [← parsed]
      rfl
  · cases parsed

end ScriptParser

end ScriptAudit
