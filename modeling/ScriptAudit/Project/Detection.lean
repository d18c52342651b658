import ScriptAudit.Files.Tree
import ScriptAudit.Path
import ScriptAudit.Text.Blank
import ScriptAudit.Text.Lowercase
import ScriptAudit.Text.Occurrence
import ScriptAudit.Text.Utf8
import ScriptAudit.Xml.Reader

namespace ScriptAudit

def isEngineHintPath (path : List Char) : Bool :=
  let lowered := Text.lower path
  let has (term : String) : Bool := Text.occurs term.toList lowered
  has "unityengine.dll" || has "unityeditor.dll" || (has "unity" && has "managed")

def hintPathName : List Char := "HintPath".toList

namespace XmlReader

def isHint (reader : XmlReader) (name : List Char) : Bool := reader.localName name == hintPathName

def hintPieces (reader : XmlReader) : Bool → List XmlEvent → List (List Char)
  | _, [] => []
  | isOpen, .opening name :: rest => reader.hintPieces (isOpen || reader.isHint name) rest
  | isOpen, .closing name :: rest => reader.hintPieces (isOpen && !reader.isHint name) rest
  | isOpen, .text content :: rest =>
    if isOpen then content :: reader.hintPieces isOpen rest else reader.hintPieces isOpen rest
  | isOpen, _ :: rest => reader.hintPieces isOpen rest

-- The hint paths of a project file, if reading it meets no fault and every entity in them is known.
def hintPaths (reader : XmlReader) (xml : List Char) : Option (List (List Char)) :=
  let reading := reader.read xml
  if reading.isComplete then (reader.hintPieces false reading.events).mapM reader.unescape else none

def referencesEngine (reader : XmlReader) (xml : List Char) : Bool :=
  match reader.hintPaths xml with
  | none => false
  | some paths => paths.any isEngineHintPath

end XmlReader

def generatedProjects : List String := ["Assembly-CSharp.csproj", "Assembly-CSharp-Editor.csproj"]

def projectExtension : String := "csproj"

namespace FileTree

def readText (tree : FileTree) (path : String) : Option (List Char) :=
  match tree.read path with
  | .ok bytes => Text.Utf8.decode bytes
  | .error _ => none

def hasEngineFolders (tree : FileTree) (directory : String) : Bool :=
  tree.isDirectory (Path.join directory "Assets") && tree.isDirectory (Path.join directory "ProjectSettings")

def hasGeneratedProject (tree : FileTree) (directory : String) : Bool :=
  generatedProjects.any fun name => tree.isFile (Path.join directory name)

end FileTree

namespace XmlReader

def hasEngineReferences (reader : XmlReader) (tree : FileTree) (path : String) : Bool :=
  match tree.readText path with
  | none => false
  | some xml => reader.referencesEngine xml

def anyProjectReferencesEngine (reader : XmlReader) (tree : FileTree) (directory : String) : Bool :=
  match tree.resolve directory with
  | .error _ => false
  | .ok place =>
    ((tree.list place).map (Path.join directory)).any fun path =>
      Path.extension path == some projectExtension && tree.isFile path && reader.hasEngineReferences tree path

def isEngineProject (reader : XmlReader) (tree : FileTree) (solution : String) : Bool :=
  tree.isFile solution &&
    let directory := Path.directory solution
    tree.hasEngineFolders directory || tree.hasGeneratedProject directory ||
      reader.anyProjectReferencesEngine tree directory

end XmlReader

namespace FileTree

def hasEngineReferences (tree : FileTree) (path : String) : Bool := Xml.reader.hasEngineReferences tree path

def isEngineProject (tree : FileTree) (solution : String) : Bool := Xml.reader.isEngineProject tree solution

def versionKey : List Char := "m_EditorVersion:".toList

def versionIn (text : List Char) : Option String := do
  let line ← (Text.pieces (· == '\n') text).find? versionKey.isPrefixOf
  let version := Text.trim (line.drop versionKey.length)
  if version.isEmpty then none else some (String.ofList version)

def engineVersion (tree : FileTree) (project : String) : Option String := do
  versionIn (← tree.readText (Path.join (Path.join project "ProjectSettings") "ProjectVersion.txt"))

end FileTree

end ScriptAudit
