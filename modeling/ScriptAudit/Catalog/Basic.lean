import ScriptAudit.Catalog.Category
import ScriptAudit.Json

namespace ScriptAudit

structure RuleDescriptor where
  id : String
  title : String
  description : String
  category : String
  defaultSeverity : String
  helpLink : Option String
deriving DecidableEq, Repr

namespace RuleDescriptor

def toJson (descriptor : RuleDescriptor) : Json :=
  .object [("id", .string descriptor.id), ("title", .string descriptor.title),
    ("description", .string descriptor.description), ("category", .string descriptor.category),
    ("default_severity", .string descriptor.defaultSeverity),
    ("help_link", .ofOption descriptor.helpLink)]

end RuleDescriptor

structure ExternalAnalyzer where
  name : String
  supported : List RuleDescriptor
deriving DecidableEq, Repr

namespace ExternalAnalyzer

def supportsAny (analyzer : ExternalAnalyzer) (category : DiagnosticCategory) : Bool :=
  analyzer.supported.any fun descriptor => classifies descriptor.id category

end ExternalAnalyzer

def analyzersIn (category : DiagnosticCategory) (analyzers : List ExternalAnalyzer) :
    List ExternalAnalyzer :=
  match category with
  | .all => analyzers
  | category => analyzers.filter (·.supportsAny category)

def firstPerId (descriptors : List RuleDescriptor) : List RuleDescriptor :=
  (descriptors.map (·.id)).eraseDups.filterMap fun id => descriptors.find? (·.id == id)

-- Every supported diagnostic by id, the first descriptor of an id winning.
def diagnosticsOf (analyzers : List ExternalAnalyzer) : List RuleDescriptor :=
  (firstPerId (analyzers.flatMap (·.supported))).mergeSort fun a b => decide (a.id ≤ b.id)

structure AnalyzerCatalog where
  source : List ExternalAnalyzer
  cached : Option (List ExternalAnalyzer)
  loads : Nat
deriving DecidableEq, Repr

namespace AnalyzerCatalog

def make (source : List ExternalAnalyzer) : AnalyzerCatalog := ⟨source, none, 0⟩

def isLoaded (catalog : AnalyzerCatalog) : Bool := catalog.cached.isSome

-- What the next load will find. A list already kept stays.
def setSource (catalog : AnalyzerCatalog) (source : List ExternalAnalyzer) : AnalyzerCatalog :=
  { catalog with source }

def clear (catalog : AnalyzerCatalog) : AnalyzerCatalog := { catalog with cached := none }

def countLoad (catalog : AnalyzerCatalog) : AnalyzerCatalog := { catalog with loads := catalog.loads + 1 }

def keep (catalog : AnalyzerCatalog) (loaded : List ExternalAnalyzer) : AnalyzerCatalog :=
  { catalog with cached := some loaded }

def getOrLoad (catalog : AnalyzerCatalog) : List ExternalAnalyzer × AnalyzerCatalog :=
  match catalog.cached with
  | some analyzers => (analyzers, catalog)
  | none => (catalog.source, catalog.countLoad.keep catalog.source)

def analyzersFor (catalog : AnalyzerCatalog) (category : DiagnosticCategory) :
    List ExternalAnalyzer × AnalyzerCatalog :=
  let (analyzers, next) := catalog.getOrLoad
  (analyzersIn category analyzers, next)

def availableDiagnostics (catalog : AnalyzerCatalog) : List RuleDescriptor × AnalyzerCatalog :=
  let (analyzers, next) := catalog.getOrLoad
  (diagnosticsOf analyzers, next)

end AnalyzerCatalog

structure SharedCatalog where
  installed : Option AnalyzerCatalog
deriving DecidableEq, Repr

namespace SharedCatalog

def vacant : SharedCatalog := ⟨none⟩

def install (place : SharedCatalog) (source : List ExternalAnalyzer) : Bool × SharedCatalog :=
  match place.installed with
  | some _ => (false, place)
  | none => (true, ⟨some (.make source)⟩)

end SharedCatalog

end ScriptAudit
