import ScriptAudit.Catalog.Basic

namespace ScriptAudit

-- What an access does next. From `lookingAgain` to `leaving`, and from `clearing` to `leavingCleared`, it holds the
-- lock.
inductive CatalogAccess where
  | looking
  | waiting
  | lookingAgain
  | loading
  | counting (loaded : List ExternalAnalyzer)
  | keeping (loaded : List ExternalAnalyzer)
  | leaving (kept : List ExternalAnalyzer)
  | answered (kept : List ExternalAnalyzer)
  | waitingToClear
  | clearing
  | leavingCleared
  | cleared
deriving DecidableEq, Repr

def CatalogAccess.answer? : CatalogAccess → Option (List ExternalAnalyzer)
  | .answered kept => some kept
  | _ => none

structure CatalogUse where
  catalog : AnalyzerCatalog
  holder : Option Nat
  accesses : List CatalogAccess
deriving DecidableEq, Repr

-- What may happen next. The source may change its answer at any time.
inductive CatalogAction where
  | beginReading
  | beginClearing
  | advance (access : Nat)
  | replaceSource (source : List ExternalAnalyzer)
deriving DecidableEq, Repr

namespace CatalogUse

def idle (catalog : AnalyzerCatalog) : CatalogUse := ⟨catalog, none, []⟩

def enter (use : CatalogUse) (access : CatalogAccess) : CatalogUse :=
  { use with accesses := use.accesses ++ [access] }

def put (use : CatalogUse) (number : Nat) (access : CatalogAccess) : CatalogUse :=
  { use with accesses := use.accesses.set number access }

def lock? (use : CatalogUse) (number : Nat) : Option CatalogUse :=
  match use.holder with
  | some _ => none
  | none => some { use with holder := some number }

def unlock (use : CatalogUse) : CatalogUse := { use with holder := none }

def changing (use : CatalogUse) (change : AnalyzerCatalog → AnalyzerCatalog) : CatalogUse :=
  { use with catalog := change use.catalog }

-- One step of the access with a number. There is none for an access that is done or waits for the lock.
def stepOf? (use : CatalogUse) (number : Nat) : CatalogAccess → Option CatalogUse
  | .looking =>
    match use.catalog.cached with
    | some kept => some (use.put number (.answered kept))
    | none => some (use.put number .waiting)
  | .waiting => (use.lock? number).map (·.put number .lookingAgain)
  | .lookingAgain =>
    match use.catalog.cached with
    | some kept => some (use.put number (.leaving kept))
    | none => some (use.put number .loading)
  | .loading => some (use.put number (.counting use.catalog.source))
  | .counting loaded => some ((use.changing (·.countLoad)).put number (.keeping loaded))
  | .keeping loaded => some ((use.changing (·.keep loaded)).put number (.leaving loaded))
  | .leaving kept => some (use.unlock.put number (.answered kept))
  | .waitingToClear => (use.lock? number).map (·.put number .clearing)
  | .clearing => some ((use.changing (·.clear)).put number .leavingCleared)
  | .leavingCleared => some (use.unlock.put number .cleared)
  | .answered _ => none
  | .cleared => none

def advance? (use : CatalogUse) (number : Nat) : Option CatalogUse :=
  use.accesses[number]?.bind (use.stepOf? number)

def perform? (use : CatalogUse) : CatalogAction → Option CatalogUse
  | .beginReading => some (use.enter .looking)
  | .beginClearing => some (use.enter .waitingToClear)
  | .advance number => use.advance? number
  | .replaceSource source => some (use.changing (·.setSource source))

def run? : CatalogUse → List CatalogAction → Option CatalogUse
  | use, [] => some use
  | use, action :: rest => (use.perform? action).bind (run? · rest)

-- A fair order: each access in turn.

def round (use : CatalogUse) : CatalogUse :=
  (List.range use.accesses.length).foldl (fun use number => (use.advance? number).getD use) use

def rounds : Nat → CatalogUse → CatalogUse
  | 0, use => use
  | count + 1, use => rounds count use.round

def readers (catalog : AnalyzerCatalog) (count : Nat) : CatalogUse :=
  ⟨catalog, none, List.replicate count .looking⟩

-- Moves every access to its end. The holder of the lock needs at most six rounds to give it up, and each reader
-- behind it no more than that.
def settle (use : CatalogUse) : CatalogUse := use.rounds (8 * (use.accesses.length + 1))

def answers (use : CatalogUse) : List (List ExternalAnalyzer) := use.accesses.filterMap CatalogAccess.answer?

end CatalogUse

def AnalyzerCatalog.readTogether (catalog : AnalyzerCatalog) (count : Nat) :
    List (List ExternalAnalyzer) × AnalyzerCatalog :=
  let settled := (CatalogUse.readers catalog count).settle
  (settled.answers, settled.catalog)

end ScriptAudit
