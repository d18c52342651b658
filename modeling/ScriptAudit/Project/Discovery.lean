import ScriptAudit.Config
import ScriptAudit.Files.Tree
import ScriptAudit.Ignore.Rule
import ScriptAudit.SourceFile
import ScriptAudit.Text.Utf8

namespace ScriptAudit

def defaultIgnores : List String :=
  ["Library", "Temp", "Logs", "obj", "bin", "Build", "Builds", "UserSettings", ".git", ".vs", ".idea"]

def ignoreName (name : String) : Except ProjectError (List IgnoreRule) :=
  let lines := [['!'] ++ name.toList ++ ['/', '*', '*'], ['!'] ++ name.toList]
  lines.foldlM (fun rules line =>
    match IgnoreRule.read line with
    | .nothing => .ok rules
    | .rule rule => .ok (rules ++ [rule])
    | .invalid => .error (.walk ("invalid ignore pattern '" ++ name ++ "'"))) []

def configuredRules (config : ScanConfig) : Except ProjectError (List IgnoreRule) := do
  return (← (defaultIgnores ++ config.extraIgnore).mapM ignoreName).flatten

-- The ignore files of one directory, and the path from there to the directory whose entries are judged, empty or
-- with a slash at its end.
structure IgnoreLayer where
  below : String
  ignoreFile : List IgnoreRule
  repositoryFile : List IgnoreRule
  exclusions : List IgnoreRule
deriving Repr

namespace IgnoreLayer

def enter (layer : IgnoreLayer) (name : String) : IgnoreLayer :=
  { layer with below := layer.below ++ name ++ "/" }

def judgeBy (rules : IgnoreLayer → List IgnoreRule) (name : String) (isDirectory : Bool)
    (layer : IgnoreLayer) : IgnoreVerdict :=
  IgnoreRule.judge (rules layer) (Text.Utf8.encode (layer.below ++ name)) isDirectory

-- The first verdict of the layers, which come with the nearest first.
def firstVerdict (layers : List IgnoreLayer) (judge : IgnoreLayer → IgnoreVerdict) : IgnoreVerdict :=
  layers.foldr (fun layer verdict => (judge layer).orElse verdict) .silent

def judge (layers : List IgnoreLayer) (name : String) (isDirectory : Bool) : IgnoreVerdict :=
  let of (rules : IgnoreLayer → List IgnoreRule) : IgnoreVerdict :=
    firstVerdict layers (judgeBy rules name isDirectory)
  (of (·.ignoreFile)).orElse ((of (·.repositoryFile)).orElse (of (·.exclusions)))

end IgnoreLayer

structure Walk where
  tree : FileTree
  configured : List IgnoreRule
  sizeLimit : Nat
  followsLinks : Bool

namespace Walk

def rulesAt (walk : Walk) (place : FilePlace) : List IgnoreRule :=
  match walk.tree.follow FileTree.linkLimit [] (place.map .into) with
  | .error _ => []
  | .ok target =>
    match walk.tree.entry? target with
    | some (.file bytes) => IgnoreRule.ofFile bytes
    | _ => []

def layerAt (walk : Walk) (place : FilePlace) (below : String) : IgnoreLayer where
  below
  ignoreFile := walk.rulesAt (place ++ [".ignore"])
  repositoryFile := walk.rulesAt (place ++ [".gitignore"])
  exclusions := walk.rulesAt (place ++ [".git", "info", "exclude"])

def layersAbove (walk : Walk) (place : FilePlace) : List IgnoreLayer :=
  (List.range place.length).reverse.map fun count =>
    walk.layerAt (place.take count) (String.join ((place.drop count).map (· ++ "/")))

-- Whether an entry is left out. The rules of the configuration are inverted: they are written as exceptions.
def omits (walk : Walk) (below name : String) (layers : List IgnoreLayer) (isDirectory : Bool) : Bool :=
  let path := Text.Utf8.encode (below ++ name)
  match (IgnoreRule.judge walk.configured path isDirectory).invert with
  | .ignored => true
  | .kept => false
  | .silent => IgnoreLayer.judge layers name isDirectory == .ignored

-- What an entry stands for. A link stands for itself, or for its target where links are followed.
def target? (walk : Walk) (place : FilePlace) : Option (FilePlace × FileEntry) := do
  match ← walk.tree.entry? place with
  | .link text =>
    if walk.followsLinks then
      match walk.tree.follow FileTree.linkLimit [] (place.map .into) with
      | .error _ => none
      | .ok target => return (target, ← walk.tree.entry? target)
    else return (place, .link text)
  | entry => return (place, entry)

def isLoop (entry target : FilePlace) (around : List FilePlace) : Bool :=
  entry != target && around.contains target

-- The scripts in a directory: its path as it is written and its place, the path from the root to it, the places of
-- the directories around it, and the layers of ignore files that hold in it.
def scriptsIn (walk : Walk) (depth : Nat) (path : String) (place : FilePlace) (below : String)
    (around : List FilePlace) (layers : List IgnoreLayer) : List String :=
  match depth with
  | 0 => []
  | depth + 1 =>
    (walk.tree.list place).flatMap fun name =>
      let entry := place ++ [name]
      match walk.target? entry with
      | none => []
      | some (target, .directory) =>
        if isLoop entry target around || walk.omits below name layers true then []
        else
          let inner := (walk.layerAt target "") :: layers.map (·.enter name)
          walk.scriptsIn depth (Path.join path name) target (below ++ name ++ "/") (target :: around) inner
      | some (_, .file bytes) =>
        if walk.omits below name layers false || walk.sizeLimit < bytes.length then []
        else if isScriptPath (Path.join path name) then [Path.join path name]
        else []
      | some (_, .link _) => []

-- A nesting that no walk exceeds: no directory is entered by a link twice, and between two links a walk goes no
-- deeper than the tree.
def depthBound (walk : Walk) : Nat := (walk.tree.entries.length + 2) * (walk.tree.entries.length + 2)

-- A root that is a file is yielded whatever rules and sizes say.
def scriptsAt (walk : Walk) (root : String) (place : FilePlace) : List String :=
  match walk.tree.entry? place with
  | some .directory =>
    let layers := walk.layerAt place "" :: walk.layersAbove place
    walk.scriptsIn walk.depthBound root place "" [place] layers
  | some (.file _) => if isScriptPath root then [root] else []
  | _ => []

end Walk

-- The root that stands for the standard input, where there is nothing to find.
def standardInput : String := "-"

def collectScripts (tree : FileTree) (root : String) (config : ScanConfig) : Except ProjectError (List String) :=
  match tree.resolve root with
  | .error _ => .error (.notFound root)
  | .ok place => do
    let configured ← configuredRules config
    let walk : Walk := ⟨tree, configured, config.sizeLimit, config.followsLinks⟩
    return if root == standardInput then [] else Path.sort (walk.scriptsAt root place)

namespace SourceFile

def read (tree : FileTree) (path : String) : Except ProjectError SourceFile :=
  match tree.read path with
  | .ok bytes => .ok ⟨path, String.ofList (Text.Utf8.decodeReplacing bytes)⟩
  | .error failure => .error (.unreadable path failure.message)

end SourceFile

def loadSources (tree : FileTree) (paths : List String) : List SourceFile :=
  paths.filterMap fun path => (SourceFile.read tree path).toOption

end ScriptAudit
