import Mathlib.Data.List.Basic
import ScriptAudit.Catalog.Basic
import ScriptAudit.Proofs.Split

namespace ScriptAudit

theorem getElem?_middle {α : Type} {part : List α} {index : Nat} (before after : List α)
    (inside : index < part.length) : (before ++ part ++ after)[before.length + index]? = part[index]? := by
  rw [List.append_assoc, List.getElem?_append_right (Nat.le_add_right _ _), Nat.add_sub_cancel_left]
  exact List.getElem?_append_left inside

inductive CatalogReading where
  | analyzers
  | analyzersFor (category : DiagnosticCategory)
  | diagnostics
deriving DecidableEq, Repr

inductive CatalogAnswer where
  | analyzers (found : List ExternalAnalyzer)
  | diagnostics (found : List RuleDescriptor)
deriving DecidableEq, Repr

inductive CatalogStep where
  | setSource (source : List ExternalAnalyzer)
  | read (reading : CatalogReading)
  | clear
deriving DecidableEq, Repr

def CatalogReading.answer (kept : List ExternalAnalyzer) : CatalogReading → CatalogAnswer
  | .analyzers => .analyzers kept
  | .analyzersFor category => .analyzers (analyzersIn category kept)
  | .diagnostics => .diagnostics (diagnosticsOf kept)

namespace CatalogStep

def isReading : CatalogStep → Bool
  | .read _ => true
  | _ => false

def answer (kept : List ExternalAnalyzer) : CatalogStep → Option CatalogAnswer
  | .read reading => some (reading.answer kept)
  | _ => none

def sourceAfter (source : List ExternalAnalyzer) : CatalogStep → List ExternalAnalyzer
  | .setSource next => next
  | _ => source

theorem any_isReading_iff {steps : List CatalogStep} :
    steps.any (·.isReading) = true ↔ ∃ reading, .read reading ∈ steps := by
  rw [List.any_eq_true]
  constructor
  · rintro ⟨step, listed, reads⟩
    cases step with
    | read reading => exact ⟨reading, listed⟩
    | _ => cases reads
  · rintro ⟨reading, listed⟩
    exact ⟨.read reading, listed, rfl⟩

end CatalogStep

def sourceInForce (source : List ExternalAnalyzer) (steps : List CatalogStep) : List ExternalAnalyzer :=
  steps.foldl CatalogStep.sourceAfter source

def generations (steps : List CatalogStep) : List (List CatalogStep) := steps.splitOn .clear

def upToClearing (earlier : List (List CatalogStep)) : List CatalogStep := earlier.flatMap (· ++ [.clear])

def beforeReading (generation : List CatalogStep) : List CatalogStep := generation.takeWhile fun step => !step.isReading

-- What the generations are: the history joined by its clearings.
theorem steps_of_cut {steps generation : List CatalogStep} {earlier later : List (List CatalogStep)}
    (cut : generations steps = earlier ++ generation :: later) :
    steps = upToClearing earlier ++ generation ++ later.flatMap (.clear :: ·) := by
  have whole : [CatalogStep.clear].intercalate (generations steps) = steps := List.intercalate_splitOn _
  rw [cut, intercalate_append_cons] at whole
  exact whole.symm

namespace AnalyzerCatalog

def read (catalog : AnalyzerCatalog) : CatalogReading → CatalogAnswer × AnalyzerCatalog
  | .analyzers =>
    let (found, next) := catalog.getOrLoad
    (.analyzers found, next)
  | .analyzersFor category =>
    let (found, next) := catalog.analyzersFor category
    (.analyzers found, next)
  | .diagnostics =>
    let (found, next) := catalog.availableDiagnostics
    (.diagnostics found, next)

def perform (catalog : AnalyzerCatalog) : CatalogStep → Option CatalogAnswer × AnalyzerCatalog
  | .setSource source => (none, catalog.setSource source)
  | .read reading =>
    let (answer, next) := catalog.read reading
    (some answer, next)
  | .clear => (none, catalog.clear)

def run (catalog : AnalyzerCatalog) : List CatalogStep → List (Option CatalogAnswer) × AnalyzerCatalog
  | [] => ([], catalog)
  | step :: rest =>
    let (answer, next) := catalog.perform step
    let (answers, last) := next.run rest
    (answer :: answers, last)

variable {catalog : AnalyzerCatalog} {kept : List ExternalAnalyzer} {step : CatalogStep}
  {generation steps : List CatalogStep}

theorem read_eq (catalog : AnalyzerCatalog) (reading : CatalogReading) :
    catalog.read reading = (reading.answer catalog.getOrLoad.1, catalog.getOrLoad.2) := by
  cases reading <;> rfl

theorem run_append (catalog : AnalyzerCatalog) (first second : List CatalogStep) :
    catalog.run (first ++ second) = ((catalog.run first).1 ++ ((catalog.run first).2.run second).1,
      ((catalog.run first).2.run second).2) := by
  induction first generalizing catalog with
  | nil => rfl
  | cons step rest ih =>
    simp only [List.cons_append, run, ih]

theorem length_run (catalog : AnalyzerCatalog) (steps : List CatalogStep) :
    (catalog.run steps).1.length = steps.length := by
  induction steps generalizing catalog with
  | nil => rfl
  | cons step rest ih => simp only [run, List.length_cons, ih]

theorem perform_kept (found : catalog.cached = some kept) (keeps : step ≠ .clear) :
    catalog.perform step = (step.answer kept, catalog.setSource (step.sourceAfter catalog.source)) := by
  cases step with
  | setSource source => rfl
  | read reading =>
    have same : catalog.getOrLoad = (kept, catalog) := by simp only [getOrLoad, found]
    simp only [perform, read_eq, same]
    rfl
  | clear => exact absurd rfl keeps

theorem run_kept (found : catalog.cached = some kept) (unbroken : .clear ∉ steps) :
    catalog.run steps = (steps.map (·.answer kept), catalog.setSource (sourceInForce catalog.source steps)) := by
  induction steps generalizing catalog with
  | nil => rfl
  | cons step rest ih =>
    obtain ⟨keeps, others⟩ := List.ne_and_not_mem_of_not_mem_cons unbroken
    have next : (catalog.setSource (step.sourceAfter catalog.source)).cached = some kept := found
    simp only [run, perform_kept found keeps.symm, ih next others]
    rfl

theorem run_generation (vacant : catalog.cached = none) (unbroken : .clear ∉ generation) :
    catalog.run generation =
      (generation.map (·.answer (sourceInForce catalog.source (beforeReading generation))),
        ⟨sourceInForce catalog.source generation,
          if generation.any (·.isReading) then some (sourceInForce catalog.source (beforeReading generation)) else none,
          catalog.loads + if generation.any (·.isReading) then 1 else 0⟩) := by
  induction generation generalizing catalog with
  | nil =>
    cases catalog
    cases vacant
    rfl
  | cons step rest ih =>
    obtain ⟨keeps, others⟩ := List.ne_and_not_mem_of_not_mem_cons unbroken
    cases step with
    | setSource source =>
      have next : (catalog.setSource source).cached = none := vacant
      simp only [run, perform, ih next others]
      rfl
    | read reading =>
      have loaded : catalog.getOrLoad = (catalog.source, catalog.countLoad.keep catalog.source) := by
        simp only [getOrLoad, vacant]
      have next : (catalog.countLoad.keep catalog.source).cached = some catalog.source := rfl
      simp only [run, perform, read_eq, loaded, run_kept next others]
      rfl
    | clear => exact absurd rfl keeps

theorem run_upToClearing {earlier : List (List CatalogStep)} (vacant : catalog.cached = none)
    (unbroken : ∀ generation ∈ earlier, .clear ∉ generation) :
    (catalog.run (upToClearing earlier)).2 = ⟨sourceInForce catalog.source (upToClearing earlier), none,
      catalog.loads + earlier.countP (·.any (·.isReading))⟩ := by
  induction earlier generalizing catalog with
  | nil =>
    cases catalog
    cases vacant
    rfl
  | cons generation rest ih =>
    obtain ⟨here, others⟩ := List.forall_mem_cons.mp unbroken
    have cleared : (catalog.run (generation ++ [.clear])).2 = ⟨sourceInForce catalog.source generation, none,
        catalog.loads + if generation.any (·.isReading) then 1 else 0⟩ := by
      rw [run_append, run_generation vacant here]
      rfl
    have source : sourceInForce catalog.source (upToClearing (generation :: rest)) =
        sourceInForce (sourceInForce catalog.source generation) (upToClearing rest) := by
      simp [sourceInForce, upToClearing, CatalogStep.sourceAfter]
    rw [source, List.countP_cons, Nat.add_comm (rest.countP _), ← Nat.add_assoc]
    rw [upToClearing, List.flatMap_cons, run_append, cleared]
    exact ih rfl others

-- A history up to the end of one of its generations. All answers of the generation are made of one source.
theorem run_of_cut {earlier later : List (List CatalogStep)} (vacant : catalog.cached = none)
    (cut : generations steps = earlier ++ generation :: later) :
    catalog.run (upToClearing earlier ++ generation) =
      ((catalog.run (upToClearing earlier)).1 ++
          generation.map (·.answer (sourceInForce catalog.source (upToClearing earlier ++ beforeReading generation))),
        ⟨sourceInForce catalog.source (upToClearing earlier ++ generation),
          if generation.any (·.isReading) then
            some (sourceInForce catalog.source (upToClearing earlier ++ beforeReading generation))
          else none,
          catalog.loads + (earlier ++ [generation]).countP (·.any (·.isReading))⟩) := by
  have unbroken : ∀ other ∈ earlier ++ generation :: later, .clear ∉ other := by
    intro other listed
    rw [← cut] at listed
    exact not_mem_of_mem_splitOn listed
  obtain ⟨before, here⟩ := List.forall_mem_append.mp unbroken
  rw [run_append, run_upToClearing vacant before, run_generation rfl (here _ List.mem_cons_self)]
  rw [List.countP_append, List.countP_singleton]
  simp only [sourceInForce, List.foldl_append, Nat.add_assoc]

theorem run_of_last_cut {earlier : List (List CatalogStep)} {current : List CatalogStep}
    (source : List ExternalAnalyzer) (cut : generations steps = earlier ++ [current]) :
    ((make source).run steps).2 = ⟨sourceInForce source steps,
      if current.any (·.isReading) then
        some (sourceInForce source (upToClearing earlier ++ beforeReading current))
      else none,
      (generations steps).countP (·.any (·.isReading))⟩ := by
  have whole : steps = upToClearing earlier ++ current := by
    simpa using steps_of_cut cut
  have vacant : (make source).cached = none := rfl
  have ended := run_of_cut vacant cut
  rw [← whole, ← cut] at ended
  rw [ended]
  simp only [make, Nat.zero_add]

theorem history_by_generations (source : List ExternalAnalyzer) (steps : List CatalogStep) :
    (∀ generation ∈ generations steps, .clear ∉ generation) ∧
    (∀ earlier generation later, generations steps = earlier ++ generation :: later →
      steps = upToClearing earlier ++ generation ++ later.flatMap (.clear :: ·) ∧
      ∀ (index : Nat) (reading : CatalogReading), generation[index]? = some (.read reading) →
        ((make source).run steps).1[(upToClearing earlier).length + index]? =
          some (some (reading.answer (sourceInForce source (upToClearing earlier ++ beforeReading generation))))) ∧
    (∀ earlier current, generations steps = earlier ++ [current] →
      (((make source).run steps).2.isLoaded = true ↔ ∃ reading, .read reading ∈ current)) ∧
    ((make source).run steps).2.loads = (generations steps).countP fun generation =>
      generation.any (·.isReading) := by
  refine ⟨fun generation => not_mem_of_mem_splitOn, ?_, ?_, ?_⟩
  · intro earlier generation later cut
    have whole := steps_of_cut cut
    refine ⟨whole, ?_⟩
    intro index reading here
    obtain ⟨inside, _⟩ := List.getElem?_eq_some_iff.mp here
    have vacant : (make source).cached = none := rfl
    rw [whole, run_append, run_of_cut vacant cut, ← length_run (make source) (upToClearing earlier)]
    rw [getElem?_middle _ _ (by simpa using inside), List.getElem?_map, here]
    rfl
  · intro earlier current cut
    rw [isLoaded, run_of_last_cut source cut, ← CatalogStep.any_isReading_iff]
    cases current.any (·.isReading) <;> simp
  · have some : generations steps ≠ [] := List.splitOn_ne_nil _ _
    rw [run_of_last_cut source (List.dropLast_append_getLast some).symm]

def swappedSteps : List CatalogStep :=
  [.setSource [⟨"Lint", []⟩], .read .analyzers, .setSource [], .read (.analyzersFor .all), .clear, .clear,
    .read .diagnostics]

theorem history_by_generations_swapped :
    generations swappedSteps = [swappedSteps.take 4, [], [.read .diagnostics]] ∧
    ((make []).run swappedSteps).1[3]? = some (some (.analyzers [⟨"Lint", []⟩])) ∧
    ((make []).run swappedSteps).2.isLoaded = true ∧ ((make []).run swappedSteps).2.loads = 2 := by
  obtain ⟨_, answers, loaded, loads⟩ := history_by_generations [] swappedSteps
  have cut : generations swappedSteps = [swappedSteps.take 4, [], [.read .diagnostics]] := by decide
  have first := (answers [] _ _ cut).2 3 (.analyzersFor .all) (by decide)
  have last := (loaded [swappedSteps.take 4, []] _ cut).mpr ⟨.diagnostics, by decide⟩
  have counted : (generations swappedSteps).countP (fun generation => generation.any (·.isReading)) = 2 := by decide
  exact ⟨cut, first, last, loads.trans counted⟩

end AnalyzerCatalog

end ScriptAudit
