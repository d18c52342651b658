import Mathlib.Algebra.GroupWithZero.Nat
import Mathlib.Data.List.Basic
import ScriptAudit.Catalog.Access

namespace ScriptAudit

namespace CatalogAccess

-- How far an access has come. Clearings go on where readings end, so a place belongs to one kind of access.
def place : CatalogAccess → Nat
  | .looking => 0
  | .waiting => 1
  | .lookingAgain => 2
  | .loading => 3
  | .counting _ => 4
  | .keeping _ => 5
  | .leaving _ => 6
  | .answered _ => 7
  | .waitingToClear => 8
  | .clearing => 9
  | .leavingCleared => 10
  | .cleared => 11

def stepsLeft (access : CatalogAccess) : Nat :=
  if access.place ≤ 7 then 7 - access.place else 11 - access.place

def holdsLock : CatalogAccess → Bool
  | .lookingAgain | .loading | .counting _ | .keeping _ | .leaving _ | .clearing | .leavingCleared => true
  | _ => false

def isLoading : CatalogAccess → Bool
  | .loading | .counting _ | .keeping _ => true
  | _ => false

def isUncounted : CatalogAccess → Bool
  | .loading | .counting _ => true
  | _ => false

def carries (list : List ExternalAnalyzer) : CatalogAccess → Prop
  | .leaving kept | .answered kept => kept = list
  | _ => False

-- A load with the answer of the source that nobody else has seen yet.
def brings (list : List ExternalAnalyzer) : CatalogAccess → Prop
  | .counting loaded | .keeping loaded => loaded = list
  | _ => False

def hasWiped : CatalogAccess → Bool
  | .leavingCleared | .cleared => true
  | _ => false

def isClearing : CatalogAccess → Bool
  | .waitingToClear | .clearing | .leavingCleared | .cleared => true
  | _ => false

def isDone : CatalogAccess → Bool
  | .answered _ | .cleared => true
  | _ => false

theorem holdsLock_of_isLoading {access : CatalogAccess} (loading : access.isLoading = true) :
    access.holdsLock = true := by
  cases access <;> first | rfl | cases loading

theorem isClearing_of_hasWiped {access : CatalogAccess} (wiped : access.hasWiped = true) :
    access.isClearing = true := by
  cases access <;> first | rfl | cases wiped

theorem isLoading_iff (access : CatalogAccess) :
    access.isLoading = true ↔ 3 ≤ access.place ∧ access.place ≤ 5 := by
  cases access <;> simp [isLoading, place]

end CatalogAccess

namespace CatalogUse

-- One step of the access with a number: where it stands before and after, and the catalog and the holder of the lock
-- from then on. Only the first two steps and the first step of a clearing are taken without the lock.
inductive Step (number : Nat) (catalog : AnalyzerCatalog) (holder : Option Nat) :
    CatalogAccess → CatalogAccess → AnalyzerCatalog → Option Nat → Prop where
  | answer {kept : List ExternalAnalyzer} (found : catalog.cached = some kept) :
      Step number catalog holder .looking (.answered kept) catalog holder
  | queue (nothing : catalog.cached = none) : Step number catalog holder .looking .waiting catalog holder
  | acquire (free : holder = none) : Step number catalog holder .waiting .lookingAgain catalog (some number)
  | reuse {kept : List ExternalAnalyzer} (found : catalog.cached = some kept) :
      Step number catalog holder .lookingAgain (.leaving kept) catalog holder
  | load (nothing : catalog.cached = none) : Step number catalog holder .lookingAgain .loading catalog holder
  | call : Step number catalog holder .loading (.counting catalog.source) catalog holder
  | count (loaded : List ExternalAnalyzer) :
      Step number catalog holder (.counting loaded) (.keeping loaded) catalog.countLoad holder
  | keep (loaded : List ExternalAnalyzer) :
      Step number catalog holder (.keeping loaded) (.leaving loaded) (catalog.keep loaded) holder
  | leave (kept : List ExternalAnalyzer) :
      Step number catalog holder (.leaving kept) (.answered kept) catalog none
  | acquireToClear (free : holder = none) :
      Step number catalog holder .waitingToClear .clearing catalog (some number)
  | wipe : Step number catalog holder .clearing .leavingCleared catalog.clear holder
  | leaveCleared : Step number catalog holder .leavingCleared .cleared catalog none

variable {use next : CatalogUse} {action : CatalogAction} {number other : Nat} {before after : CatalogAccess}
  {catalog catalog' : AnalyzerCatalog} {holder holder' : Option Nat} {list : List ExternalAnalyzer}

theorem Step.place_lt (step : Step number catalog holder before after catalog' holder') :
    before.place < after.place := by
  cases step <;> simp [CatalogAccess.place]

theorem Step.stepsLeft_lt (step : Step number catalog holder before after catalog' holder') :
    after.stepsLeft < before.stepsLeft := by
  cases step <;> simp [CatalogAccess.stepsLeft, CatalogAccess.place]

theorem Step.lock (step : Step number catalog holder before after catalog' holder') :
    (before.holdsLock = false ∧ after.holdsLock = true ∧ holder = none ∧ holder' = some number) ∨
      (before.holdsLock = true ∧ after.holdsLock = false ∧ holder' = none) ∨
        before.holdsLock = after.holdsLock ∧ holder' = holder := by
  cases step <;> simp [CatalogAccess.holdsLock, *]

theorem Step.loads (step : Step number catalog holder before after catalog' holder')
    (loading : after.isLoading = true) (fresh : ¬ before.isLoading = true) :
    before = .lookingAgain ∧ after = .loading ∧ catalog.cached = none := by
  cases step with
  | load nothing => exact ⟨rfl, rfl, nothing⟩
  | call => exact absurd rfl fresh
  | count => exact absurd rfl fresh
  | _ => cases loading

theorem Step.calls (step : Step number catalog holder before after catalog' holder')
    (brings : after.brings list) (fresh : ¬ before.brings list) :
    before = .loading ∧ after = .counting list := by
  cases step with
  | call => cases brings; exact ⟨rfl, rfl⟩
  | count => exact absurd brings fresh
  | _ => cases brings

theorem Step.takes (step : Step number catalog holder before after catalog' holder')
    (carries : after.carries list) (fresh : ¬ before.carries list) :
    before = .looking ∧ after = .answered list ∧ catalog.cached = some list ∨
      before = .lookingAgain ∧ after = .leaving list ∧ catalog.cached = some list ∨
        before = .keeping list ∧ after = .leaving list := by
  cases step with
  | answer found => cases carries; exact .inl ⟨rfl, rfl, found⟩
  | reuse found => cases carries; exact .inr (.inl ⟨rfl, rfl, found⟩)
  | keep => cases carries; exact .inr (.inr ⟨rfl, rfl⟩)
  | leave => exact absurd carries fresh
  | _ => cases carries

theorem Step.source_of_loading (step : Step number catalog holder .loading (.counting list) catalog' holder') :
    catalog.source = list := by
  cases step
  rfl

theorem Step.cached_of_looking (step : Step number catalog holder .looking (.answered list) catalog' holder') :
    catalog.cached = some list := by
  cases step
  assumption

theorem Step.cached_of_lookingAgain
    (step : Step number catalog holder .lookingAgain (.leaving list) catalog' holder') :
    catalog.cached = some list := by
  cases step
  assumption

theorem Step.cached (step : Step number catalog holder before after catalog' holder') :
    catalog'.cached = catalog.cached ∨ (∃ loaded, before = .keeping loaded ∧ after = .leaving loaded) ∨
      before = .clearing ∧ after = .leavingCleared := by
  cases step with
  | keep loaded => exact .inr (.inl ⟨loaded, rfl, rfl⟩)
  | wipe => exact .inr (.inr ⟨rfl, rfl⟩)
  | _ => exact .inl rfl

theorem Step.cached_of_keeping (step : Step number catalog holder (.keeping list) after catalog' holder') :
    catalog'.cached = some list := by
  cases step
  rfl

theorem Step.cached_of_clearing (step : Step number catalog holder .clearing after catalog' holder') :
    catalog'.cached = none := by
  cases step
  rfl

-- Only an access that holds the lock changes what is kept, and it does not load from then on.
theorem Step.cached_of_lock (step : Step number catalog holder before after catalog' holder') :
    catalog'.cached = catalog.cached ∨ before.holdsLock = true ∧ after.isLoading = false := by
  rcases step.cached with kept | ⟨loaded, rfl, rfl⟩ | ⟨rfl, rfl⟩
  · exact .inl kept
  · exact .inr ⟨rfl, rfl⟩
  · exact .inr ⟨rfl, rfl⟩

theorem Step.loads_on (step : Step number catalog holder before after catalog' holder')
    (loading : before.isLoading = true) (nothing : catalog'.cached = none) : after.isLoading = true := by
  cases step with
  | call => rfl
  | count => rfl
  | keep => cases nothing
  | _ => cases loading

theorem Step.nothing_before (step : Step number catalog holder before after catalog' holder')
    (nothing : catalog'.cached = none) (keeps : before ≠ .clearing) : catalog.cached = none := by
  cases step with
  | keep => cases nothing
  | wipe => exact absurd rfl keeps
  | _ => exact nothing

theorem Step.isClearing (step : Step number catalog holder before after catalog' holder') :
    after.isClearing = before.isClearing := by
  cases step <;> rfl

theorem advance?_eq (step : Step number use.catalog use.holder before after catalog' holder')
    (here : use.accesses[number]? = some before) :
    use.advance? number = some ⟨catalog', holder', use.accesses.set number after⟩ := by
  cases step <;> simp_all [advance?, stepOf?, put, lock?, unlock, changing]

theorem step_of_advance? (advanced : use.advance? number = some next) :
    ∃ before after catalog' holder', use.accesses[number]? = some before ∧
      Step number use.catalog use.holder before after catalog' holder' ∧
        next = ⟨catalog', holder', use.accesses.set number after⟩ := by
  obtain ⟨before, here, moved⟩ := Option.bind_eq_some_iff.mp advanced
  cases before with
  | looking =>
    cases found : use.catalog.cached with
    | none =>
      simp only [stepOf?, found] at moved
      cases moved
      exact ⟨_, _, _, _, here, .queue found, rfl⟩
    | some kept =>
      simp only [stepOf?, found] at moved
      cases moved
      exact ⟨_, _, _, _, here, .answer found, rfl⟩
  | waiting =>
    cases free : use.holder with
    | none =>
      simp only [stepOf?, lock?, free] at moved
      cases moved
      exact ⟨_, _, _, _, here, .acquire rfl, rfl⟩
    | some keeper =>
      simp only [stepOf?, lock?, free] at moved
      cases moved
  | lookingAgain =>
    cases found : use.catalog.cached with
    | none =>
      simp only [stepOf?, found] at moved
      cases moved
      exact ⟨_, _, _, _, here, .load found, rfl⟩
    | some kept =>
      simp only [stepOf?, found] at moved
      cases moved
      exact ⟨_, _, _, _, here, .reuse found, rfl⟩
  | loading => cases moved; exact ⟨_, _, _, _, here, .call, rfl⟩
  | counting loaded => cases moved; exact ⟨_, _, _, _, here, .count loaded, rfl⟩
  | keeping loaded => cases moved; exact ⟨_, _, _, _, here, .keep loaded, rfl⟩
  | leaving kept => cases moved; exact ⟨_, _, _, _, here, .leave kept, rfl⟩
  | answered kept => cases moved
  | waitingToClear =>
    cases free : use.holder with
    | none =>
      simp only [stepOf?, lock?, free] at moved
      cases moved
      exact ⟨_, _, _, _, here, .acquireToClear rfl, rfl⟩
    | some keeper =>
      simp only [stepOf?, lock?, free] at moved
      cases moved
  | clearing => cases moved; exact ⟨_, _, _, _, here, .wipe, rfl⟩
  | leavingCleared => cases moved; exact ⟨_, _, _, _, here, .leaveCleared, rfl⟩
  | cleared => cases moved

theorem exists_step (number : Nat) (catalog : AnalyzerCatalog) {before : CatalogAccess}
    (unfinished : before.isDone = false) (mayMove : holder = none ∨ before.holdsLock = true) :
    ∃ after catalog' holder', Step number catalog holder before after catalog' holder' := by
  cases before with
  | looking =>
    cases found : catalog.cached with
    | none => exact ⟨_, _, _, .queue found⟩
    | some kept => exact ⟨_, _, _, .answer found⟩
  | waiting => exact ⟨_, _, _, .acquire (mayMove.resolve_right (by decide))⟩
  | lookingAgain =>
    cases found : catalog.cached with
    | none => exact ⟨_, _, _, .load found⟩
    | some kept => exact ⟨_, _, _, .reuse found⟩
  | loading => exact ⟨_, _, _, .call⟩
  | counting loaded => exact ⟨_, _, _, .count loaded⟩
  | keeping loaded => exact ⟨_, _, _, .keep loaded⟩
  | leaving kept => exact ⟨_, _, _, .leave kept⟩
  | answered kept => cases unfinished
  | waitingToClear => exact ⟨_, _, _, .acquireToClear (mayMove.resolve_right (by decide))⟩
  | clearing => exact ⟨_, _, _, .wipe⟩
  | leavingCleared => exact ⟨_, _, _, .leaveCleared⟩
  | cleared => cases unfinished

-- What an action leaves of the accesses and the catalog. A step moves one access, a new access stands at the end, and
-- the source changes by itself.
inductive Outcome (use : CatalogUse) : CatalogAction → CatalogUse → Prop where
  | enters {action : CatalogAction} {entered : CatalogAccess}
      (begins : action = .beginReading ∧ entered = .looking ∨ action = .beginClearing ∧ entered = .waitingToClear) :
      Outcome use action (use.enter entered)
  | advances {number : Nat} {before after : CatalogAccess} {catalog' : AnalyzerCatalog} {holder' : Option Nat}
      (here : use.accesses[number]? = some before)
      (step : Step number use.catalog use.holder before after catalog' holder') :
      Outcome use (.advance number) ⟨catalog', holder', use.accesses.set number after⟩
  | replaces (source : List ExternalAnalyzer) :
      Outcome use (.replaceSource source) (use.changing (·.setSource source))

theorem outcome_of_perform? (performed : use.perform? action = some next) : Outcome use action next := by
  cases action with
  | beginReading =>
    cases performed
    exact .enters (.inl ⟨rfl, rfl⟩)
  | beginClearing =>
    cases performed
    exact .enters (.inr ⟨rfl, rfl⟩)
  | advance number =>
    obtain ⟨before, after, catalog', holder', here, step, rfl⟩ := step_of_advance? performed
    exact .advances here step
  | replaceSource source =>
    cases performed
    exact .replaces source

theorem getElem?_enter_of_getElem? (here : use.accesses[number]? = some before) (entered : CatalogAccess) :
    (use.enter entered).accesses[number]? = some before := by
  obtain ⟨inside, _⟩ := List.getElem?_eq_some_iff.mp here
  rw [enter, List.getElem?_append, if_pos inside, here]

theorem cases_of_getElem?_enter {entered : CatalogAccess}
    (now : (use.enter entered).accesses[number]? = some after) :
    use.accesses[number]? = some after ∨ number = use.accesses.length ∧ after = entered := by
  rw [enter, List.getElem?_append] at now
  by_cases old : number < use.accesses.length
  · rw [if_pos old] at now
    exact .inl now
  · rw [if_neg old, List.getElem?_singleton] at now
    split at now
    · exact .inr ⟨by omega, (Option.some.inj now).symm⟩
    · cases now

theorem getElem?_set_of_getElem? {items : List CatalogAccess} (here : items[number]? = some before)
    (after : CatalogAccess) (other : Nat) :
    (items.set number after)[other]? = if number = other then some after else items[other]? := by
  obtain ⟨inside, _⟩ := List.getElem?_eq_some_iff.mp here
  rw [List.getElem?_set, if_pos inside]

-- Where an access stands after an action: where it stood before, one step on, or at its beginning.
theorem Outcome.access_cases (outcome : Outcome use action next) (now : next.accesses[number]? = some after) :
    use.accesses[number]? = some after ∨
      (∃ before, action = .advance number ∧ use.accesses[number]? = some before ∧
        Step number use.catalog use.holder before after next.catalog next.holder) ∨
          number = use.accesses.length ∧
            (action = .beginReading ∧ after = .looking ∨ action = .beginClearing ∧ after = .waitingToClear) := by
  cases outcome with
  | enters begins =>
    rcases cases_of_getElem?_enter now with old | ⟨new, rfl⟩
    · exact .inl old
    · exact .inr (.inr ⟨new, begins⟩)
  | @advances moved before after' _ _ here step =>
    rw [getElem?_set_of_getElem? here] at now
    by_cases same : moved = number
    · rw [if_pos same] at now
      cases now
      subst same
      exact .inr (.inl ⟨before, rfl, here, step⟩)
    · rw [if_neg same] at now
      exact .inl now
  | replaces source => exact .inl now

theorem Outcome.access_kept (outcome : Outcome use action next) (here : use.accesses[number]? = some before)
    (idle : action ≠ .advance number) : next.accesses[number]? = some before := by
  cases outcome with
  | enters => exact getElem?_enter_of_getElem? here _
  | @advances moved _ _ _ _ there step =>
    have apart : moved ≠ number := fun same => idle (same ▸ rfl)
    rw [getElem?_set_of_getElem? there, if_neg apart, here]
  | replaces source => exact here

theorem Outcome.cached (outcome : Outcome use action next) : next.catalog.cached = use.catalog.cached ∨
    ∃ (number : Nat) (before after : CatalogAccess), use.accesses[number]? = some before ∧
      next.accesses[number]? = some after ∧
        ((∃ loaded, before = .keeping loaded ∧ after = .leaving loaded) ∨
          before = .clearing ∧ after = .leavingCleared) := by
  cases outcome with
  | enters => exact .inl rfl
  | @advances number before after _ _ here step =>
    have there := getElem?_set_of_getElem? here after number
    rw [if_pos rfl] at there
    rcases step.cached with same | ⟨loaded, rfl, rfl⟩ | ⟨rfl, rfl⟩
    · exact .inl same
    · exact .inr ⟨number, _, _, here, there, .inl ⟨loaded, rfl, rfl⟩⟩
    · exact .inr ⟨number, _, _, here, there, .inr ⟨rfl, rfl⟩⟩
  | replaces source => exact .inl rfl

-- The lock belongs to the access that stands between taking and giving it back, and nothing is kept while that access
-- loads.
structure Guarded (use : CatalogUse) : Prop where
  holder_iff : ∀ number, use.holder = some number ↔
    ∃ access, use.accesses[number]? = some access ∧ access.holdsLock = true
  vacant : ∀ (number : Nat) (access : CatalogAccess), use.accesses[number]? = some access → access.isLoading = true →
    use.catalog.cached = none

theorem idle_guarded (catalog : AnalyzerCatalog) : (idle catalog).Guarded :=
  ⟨by simp [idle], by simp [idle]⟩

theorem Guarded.exclusive (guarded : use.Guarded) {first second : CatalogAccess}
    (here : use.accesses[number]? = some first) (there : use.accesses[other]? = some second)
    (holds : first.holdsLock = true) (holds' : second.holdsLock = true) : number = other := by
  have one := (guarded.holder_iff number).mpr ⟨first, here, holds⟩
  have two := (guarded.holder_iff other).mpr ⟨second, there, holds'⟩
  exact Option.some.inj (one.symm.trans two)

theorem Guarded.holder_iff_advance (guarded : use.Guarded) (here : use.accesses[number]? = some before)
    (step : Step number use.catalog use.holder before after catalog' holder') (place : Nat) :
    holder' = some place ↔
      ∃ access, (use.accesses.set number after)[place]? = some access ∧ access.holdsLock = true := by
  have held (holds : before.holdsLock = true) : use.holder = some number :=
    (guarded.holder_iff number).mpr ⟨before, here, holds⟩
  rw [getElem?_set_of_getElem? here after place]
  by_cases same : number = place
  · subst same
    simp only [if_pos, Option.some.injEq, exists_eq_left']
    rcases step.lock with ⟨_, takes, _, rfl⟩ | ⟨_, gives, rfl⟩ | ⟨stays, rfl⟩
    · simp [takes]
    · simp [gives]
    · rw [guarded.holder_iff, here, ← stays]
      simp
  · simp only [if_neg same]
    rw [← guarded.holder_iff]
    rcases step.lock with ⟨_, _, free, rfl⟩ | ⟨gives, _, rfl⟩ | ⟨_, rfl⟩
    · simp [free, same]
    · simp [held gives, same]
    · rfl

-- Whoever changes what is kept holds the lock, so nobody else loads at that moment.
theorem Guarded.vacant_advance (guarded : use.Guarded) (here : use.accesses[number]? = some before)
    (step : Step number use.catalog use.holder before after catalog' holder') {place : Nat} {access : CatalogAccess}
    (there : (use.accesses.set number after)[place]? = some access) (loading : access.isLoading = true) :
    catalog'.cached = none := by
  rw [getElem?_set_of_getElem? here after place] at there
  by_cases same : number = place
  · rw [if_pos same] at there
    cases there
    rcases step.cached_of_lock with kept | ⟨_, idle⟩
    · by_cases earlier : before.isLoading = true
      · exact kept.trans (guarded.vacant number before here earlier)
      · exact kept.trans (step.loads loading earlier).2.2
    · rw [loading] at idle
      cases idle
  · rw [if_neg same] at there
    rcases step.cached_of_lock with kept | ⟨holds, _⟩
    · exact kept.trans (guarded.vacant place access there loading)
    · exact absurd (guarded.exclusive here there holds (CatalogAccess.holdsLock_of_isLoading loading)) same

theorem Guarded.advance (guarded : use.Guarded) (here : use.accesses[number]? = some before)
    (step : Step number use.catalog use.holder before after catalog' holder') :
    Guarded ⟨catalog', holder', use.accesses.set number after⟩ :=
  ⟨guarded.holder_iff_advance here step, fun _ _ there loading => guarded.vacant_advance here step there loading⟩

theorem Guarded.enter (guarded : use.Guarded) {entered : CatalogAccess} (outside : entered.holdsLock = false) :
    (use.enter entered).Guarded := by
  have new {place : Nat} {access : CatalogAccess} (there : (use.enter entered).accesses[place]? = some access)
      (holds : access.holdsLock = true) : use.accesses[place]? = some access := by
    rcases cases_of_getElem?_enter there with old | ⟨_, rfl⟩
    · exact old
    · rw [outside] at holds
      cases holds
  refine ⟨?_, ?_⟩
  · intro place
    rw [show (use.enter entered).holder = use.holder from rfl, guarded.holder_iff]
    constructor
    · rintro ⟨access, there, holds⟩
      exact ⟨access, getElem?_enter_of_getElem? there entered, holds⟩
    · rintro ⟨access, there, holds⟩
      exact ⟨access, new there holds, holds⟩
  · intro place access there loading
    exact guarded.vacant place access (new there (CatalogAccess.holdsLock_of_isLoading loading)) loading

theorem Guarded.perform (guarded : use.Guarded) (outcome : Outcome use action next) : next.Guarded := by
  cases outcome with
  | enters begins =>
    refine guarded.enter ?_
    rcases begins with ⟨_, rfl⟩ | ⟨_, rfl⟩ <;> rfl
  | advances here step => exact guarded.advance here step
  | replaces source => exact ⟨guarded.holder_iff, guarded.vacant⟩

-- Where nobody can move on, nobody holds the lock, so nobody waits for it either.
theorem Guarded.done_of_stuck (guarded : use.Guarded) (stuck : ∀ number, use.advance? number = none) :
    ∀ access ∈ use.accesses, access.isDone = true := by
  have cannot {number : Nat} {access : CatalogAccess} (here : use.accesses[number]? = some access)
      (unfinished : access.isDone = false) : ¬ (use.holder = none ∨ access.holdsLock = true) := by
    intro mayMove
    obtain ⟨_, _, _, step⟩ := exists_step number use.catalog unfinished mayMove
    have moves := advance?_eq step here
    rw [stuck] at moves
    cases moves
  have free : use.holder = none := by
    cases held : use.holder with
    | none => rfl
    | some keeper =>
      obtain ⟨access, here, holds⟩ := (guarded.holder_iff keeper).mp held
      have unfinished : access.isDone = false := by cases access <;> first | rfl | cases holds
      exact absurd (.inr holds) (cannot here unfinished)
  intro access member
  obtain ⟨number, here⟩ := List.getElem?_of_mem member
  cases done : access.isDone with
  | true => rfl
  | false => exact absurd (.inl free) (cannot here done)

theorem split_of_getElem? {items : List CatalogAccess} (here : items[number]? = some before)
    (after : CatalogAccess) :
    ∃ front back, items = front ++ before :: back ∧ items.set number after = front ++ after :: back := by
  obtain ⟨inside, rfl⟩ := List.getElem?_eq_some_iff.mp here
  obtain ⟨front, back, whole, _, replaced⟩ := List.exists_of_set inside
  exact ⟨front, back, whole, replaced⟩

def stepsLeft (use : CatalogUse) : Nat := (use.accesses.map CatalogAccess.stepsLeft).sum

def begun (use : CatalogUse) : Nat := use.catalog.loads + use.accesses.countP CatalogAccess.isUncounted

def wiped (use : CatalogUse) : Nat := use.accesses.countP CatalogAccess.hasWiped

theorem stepsLeft_lt_of_advance? (advanced : use.advance? number = some next) :
    next.stepsLeft < use.stepsLeft := by
  obtain ⟨before, after, _, _, here, step, rfl⟩ := step_of_advance? advanced
  obtain ⟨front, back, whole, replaced⟩ := split_of_getElem? here after
  have fewer := step.stepsLeft_lt
  simp only [stepsLeft, replaced]
  rw [whole]
  simp only [List.map_append, List.map_cons, List.sum_append, List.sum_cons]
  omega

-- A load begins exactly with the step from looking again to loading, and a clearing drops what is kept in one step.
structure Counted (use next : CatalogUse) (before after : CatalogAccess) : Prop where
  begun : next.begun = use.begun + (if before = .lookingAgain ∧ after = .loading then 1 else 0)
  wiped : next.wiped = use.wiped + (if before = .clearing then 1 else 0)

theorem counted_of_step (here : use.accesses[number]? = some before)
    (step : Step number use.catalog use.holder before after catalog' holder') :
    Counted use ⟨catalog', holder', use.accesses.set number after⟩ before after := by
  obtain ⟨front, back, whole, replaced⟩ := split_of_getElem? here after
  refine ⟨?_, ?_⟩
  · simp only [CatalogUse.begun, replaced]
    rw [whole]
    simp only [List.countP_append, List.countP_cons]
    cases step <;> simp [CatalogAccess.isUncounted, AnalyzerCatalog.countLoad, AnalyzerCatalog.keep,
      AnalyzerCatalog.clear] <;> omega
  · simp only [CatalogUse.wiped, replaced]
    rw [whole]
    simp only [List.countP_append, List.countP_cons]
    cases step <;> simp [CatalogAccess.hasWiped]
    omega

theorem Outcome.begun_le (outcome : Outcome use action next) : use.begun ≤ next.begun := by
  cases outcome with
  | enters begins => simp only [begun, enter, List.countP_append]; omega
  | advances here step =>
    have counted := (counted_of_step here step).begun
    omega
  | replaces source => exact Nat.le_refl _

-- The loads that have begun exceed the clearings by one at most, and not even by one while nothing is kept and nobody
-- loads.
structure Accounted (use : CatalogUse) : Prop where
  bounded : use.begun ≤ use.wiped + 1
  settled : use.catalog.cached = none →
    (∀ (number : Nat) (access : CatalogAccess), use.accesses[number]? = some access → access.isLoading = false) →
      use.begun ≤ use.wiped

theorem idle_accounted (source : List ExternalAnalyzer) : (idle (.make source)).Accounted := by
  have nothing : (idle (.make source)).begun = 0 := rfl
  exact ⟨by omega, fun _ _ => by omega⟩

theorem Accounted.enter (accounted : use.Accounted) {entered : CatalogAccess}
    (fresh : entered.isUncounted = false ∧ entered.hasWiped = false) : (use.enter entered).Accounted := by
  have begun : (use.enter entered).begun = use.begun := by
    simp [CatalogUse.begun, CatalogUse.enter, fresh.1]
  have wiped : (use.enter entered).wiped = use.wiped := by
    simp [CatalogUse.wiped, CatalogUse.enter, fresh.2]
  refine ⟨by rw [begun, wiped]; exact accounted.bounded, fun nothing nobody => ?_⟩
  rw [begun, wiped]
  exact accounted.settled nothing fun number access here =>
    nobody number access (getElem?_enter_of_getElem? here entered)

-- Whoever looks again holds the lock, so nobody loads.
theorem Accounted.balanced (accounted : use.Accounted) (guarded : use.Guarded)
    (here : use.accesses[number]? = some .lookingAgain) (nothing : use.catalog.cached = none) :
    use.begun ≤ use.wiped := by
  refine accounted.settled nothing fun other access there => ?_
  cases loading : access.isLoading with
  | false => rfl
  | true =>
    cases guarded.exclusive here there rfl (CatalogAccess.holdsLock_of_isLoading loading)
    cases Option.some.inj (here.symm.trans there)
    cases loading

theorem Step.nobody_before (here : use.accesses[number]? = some before)
    (step : Step number use.catalog use.holder before after catalog' holder') (nothing : catalog'.cached = none)
    (nobody : ∀ (place : Nat) (access : CatalogAccess),
      (use.accesses.set number after)[place]? = some access → access.isLoading = false)
    {access : CatalogAccess} (there : use.accesses[other]? = some access) : access.isLoading = false := by
  have moved := getElem?_set_of_getElem? here after
  by_cases same : number = other
  · subst same
    cases Option.some.inj (here.symm.trans there)
    cases loading : before.isLoading with
    | false => rfl
    | true =>
      have goesOn := nobody number after (by rw [moved, if_pos rfl])
      rw [step.loads_on loading nothing] at goesOn
      cases goesOn
  · exact nobody other access (by rw [moved, if_neg same, there])

theorem Accounted.advance (accounted : use.Accounted) (guarded : use.Guarded)
    (here : use.accesses[number]? = some before)
    (step : Step number use.catalog use.holder before after catalog' holder') :
    Accounted ⟨catalog', holder', use.accesses.set number after⟩ := by
  obtain ⟨begun, wiped⟩ := counted_of_step here step
  by_cases begins : before = .lookingAgain ∧ after = .loading
  · obtain ⟨rfl, rfl⟩ := begins
    have balanced := accounted.balanced guarded here (step.loads rfl (by decide)).2.2
    simp only [and_self, if_true, reduceCtorEq, if_false] at begun wiped
    refine ⟨by omega, fun _ nobody => ?_⟩
    cases nobody number .loading (by rw [getElem?_set_of_getElem? here, if_pos rfl])
  · rw [if_neg begins] at begun
    have bounded := accounted.bounded
    refine ⟨by omega, fun nothing nobody => ?_⟩
    by_cases wipes : before = .clearing
    · rw [if_pos wipes] at wiped
      omega
    · have earlier := accounted.settled (step.nothing_before nothing wipes) fun other access there =>
        step.nobody_before here nothing nobody there
      omega

theorem Accounted.perform (accounted : use.Accounted) (guarded : use.Guarded)
    (outcome : Outcome use action next) : next.Accounted := by
  cases outcome with
  | enters begins =>
    refine accounted.enter ?_
    rcases begins with ⟨_, rfl⟩ | ⟨_, rfl⟩ <;> exact ⟨rfl, rfl⟩
  | advances here step => exact accounted.advance guarded here step
  | replaces source => exact ⟨accounted.bounded, accounted.settled⟩

end CatalogUse

end ScriptAudit
