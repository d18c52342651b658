import ScriptAudit.Text.Blank
import ScriptAudit.Text.Pieces
import ScriptAudit.Text.Word

namespace ScriptAudit

structure EngineVersion where
  major : UInt32
  minor : UInt32
  patch : UInt32
deriving DecidableEq, Repr

namespace EngineVersion

open Text

def readPart (part : List Char) : UInt32 := (readWord (trim part)).getD 0

-- Reads `6000.0.0`, `2022.3`, `2022.3.1f1` or `2021.3.5-beta`. Dots and hyphens part the numbers, and what
-- follows the digits of the third is dropped.
def read (version : List Char) : EngineVersion :=
  match pieces (fun c => c == '.' || c == '-') (trim version) with
  | [] => ⟨0, 0, 0⟩
  | [major] => ⟨readPart major, 0, 0⟩
  | [major, minor] => ⟨readPart major, readPart minor, 0⟩
  | major :: minor :: patch :: _ =>
    ⟨readPart major, readPart minor, readPart (patch.takeWhile Char.isDigit)⟩

def ofString (version : String) : EngineVersion := read version.toList

def toList (v : EngineVersion) : List Char :=
  (toString v.major.toNat).toList ++ '.' :: (toString v.minor.toNat).toList ++
    '.' :: (toString v.patch.toNat).toList

def display (v : EngineVersion) : String := String.ofList v.toList

def le (a b : EngineVersion) : Bool :=
  decide (a.major < b.major) ||
    (a.major == b.major && (decide (a.minor < b.minor) ||
      (a.minor == b.minor && decide (a.patch ≤ b.patch))))

-- The order of a list of versions: its indexes, from the lowest version on, equal ones as they came.
def ranking (versions : List EngineVersion) : List Nat :=
  (versions.zipIdx.mergeSort fun a b => a.1.le b.1).map (·.2)

end EngineVersion

end ScriptAudit
