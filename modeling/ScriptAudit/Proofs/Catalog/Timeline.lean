import Mathlib.Order.Basic
import Mathlib.Data.Nat.Init
import ScriptAudit.Proofs.Catalog.Access

namespace ScriptAudit

namespace CatalogUse

theorem run?_append (use : CatalogUse) (first second : List CatalogAction) :
    use.run? (first ++ second) = (use.run? first).bind (·.run? second) := by
  induction first generalizing use with
  | nil => rfl
  | cons action rest ih =>
    rw [List.cons_append, run?, run?]
    cases use.perform? action with
    | none => rfl
    | some next => exact ih next

end CatalogUse

-- The states of one run from a new catalog on, at the times up to the number of its actions.
structure CatalogTimeline where
  source : List ExternalAnalyzer
  actions : List CatalogAction
  use : Nat → CatalogUse
  starts : use 0 = .idle (.make source)
  performs : ∀ (time : Nat) (early : time < actions.length),
    (use time).perform? actions[time] = some (use (time + 1))

namespace CatalogTimeline

open CatalogUse

def ofRun (source : List ExternalAnalyzer) (actions : List CatalogAction)
    (runs : ((CatalogUse.idle (.make source)).run? actions).isSome = true) : CatalogTimeline where
  source
  actions
  use time := ((CatalogUse.idle (.make source)).run? (actions.take time)).getD (.idle (.make source))
  starts := by simp [run?]
  performs time early := by
    have whole := runs
    rw [← List.take_append_drop (time + 1) actions, run?_append] at whole
    rw [List.take_succ_eq_append_getElem early, run?_append] at whole ⊢
    cases upTo : (CatalogUse.idle (.make source)).run? (actions.take time) with
    | none => simp [upTo] at whole
    | some now =>
      cases moved : now.perform? actions[time] with
      | none => simp [upTo, run?, moved] at whole
      | some next => simp [run?, moved]

variable {line : CatalogTimeline} {time early late number other : Nat} {before after access : CatalogAccess}
  {list : List ExternalAnalyzer}

def access? (line : CatalogTimeline) (time number : Nat) : Option CatalogAccess := (line.use time).accesses[number]?

def cached (line : CatalogTimeline) (time : Nat) : Option (List ExternalAnalyzer) := (line.use time).catalog.cached

structure Turns (line : CatalogTimeline) (time number : Nat) (before after : CatalogAccess) : Prop where
  early : time < line.actions.length
  was : line.access? time number = some before
  is : line.access? (time + 1) number = some after

-- The events of a run that the statements speak of. A call begins when its access enters, and has returned when its
-- access is done.

def Begins (line : CatalogTimeline) (time reader : Nat) : Prop :=
  line.actions[time]? = some .beginReading ∧ (line.use time).accesses.length = reader

def LoadBegins (line : CatalogTimeline) (time loader : Nat) : Prop := line.Turns time loader .lookingAgain .loading

def SourceAnswers (line : CatalogTimeline) (time loader : Nat) (list : List ExternalAnalyzer) : Prop :=
  line.Turns time loader .loading (.counting list)

def Keeps (line : CatalogTimeline) (time loader : Nat) (list : List ExternalAnalyzer) : Prop :=
  line.Turns time loader (.keeping list) (.leaving list)

def Wipes (line : CatalogTimeline) (time clearer : Nat) : Prop := line.Turns time clearer .clearing .leavingCleared

def ClearReturns (line : CatalogTimeline) (time clearer : Nat) : Prop :=
  line.Turns time clearer .leavingCleared .cleared

-- A reader comes by its list in one of three steps: it finds the list at the first look, or at the second, or it has
-- loaded the list itself and keeps it.
inductive Takes (line : CatalogTimeline) (time reader : Nat) (list : List ExternalAnalyzer) : Prop where
  | found (turns : line.Turns time reader .looking (.answered list))
  | foundAgain (turns : line.Turns time reader .lookingAgain (.leaving list))
  | loaded (keeps : line.Keeps time reader list)

theorem outcome (line : CatalogTimeline) (early : time < line.actions.length) :
    Outcome (line.use time) line.actions[time] (line.use (time + 1)) :=
  outcome_of_perform? (line.performs time early)

theorem guarded (line : CatalogTimeline) (reached : time ≤ line.actions.length) : (line.use time).Guarded := by
  induction time with
  | zero => rw [line.starts]; exact idle_guarded _
  | succ time ih => exact (ih (by omega)).perform (line.outcome reached)

theorem accounted (line : CatalogTimeline) (reached : time ≤ line.actions.length) : (line.use time).Accounted := by
  induction time with
  | zero => rw [line.starts]; exact idle_accounted _
  | succ time ih => exact (ih (by omega)).perform (line.guarded (by omega)) (line.outcome reached)

theorem begun_le_of_le (ordered : early ≤ late) (reached : late ≤ line.actions.length) :
    (line.use early).begun ≤ (line.use late).begun := by
  induction late, ordered using Nat.le_induction with
  | base => exact Nat.le_refl _
  | succ late _ ih => exact Nat.le_trans (ih (by omega)) (line.outcome reached).begun_le

theorem Turns.step (turns : line.Turns time number before after) (changes : before ≠ after) :
    line.actions[time]? = some (.advance number) ∧
      Step number (line.use time).catalog (line.use time).holder before after (line.use (time + 1)).catalog
        (line.use (time + 1)).holder := by
  have inside := turns.early
  rcases (line.outcome inside).access_cases turns.is with same | ⟨before', acts, was, step⟩ | ⟨new, _⟩
  · exact absurd (Option.some.inj (turns.was.symm.trans same)) changes
  · cases Option.some.inj (turns.was.symm.trans was)
    exact ⟨by rw [List.getElem?_eq_getElem inside, acts], step⟩
  · obtain ⟨old, _⟩ := List.getElem?_eq_some_iff.mp turns.was
    omega

theorem Turns.advanced (turns : line.Turns time number before after) (changes : before ≠ after) :
    (line.use time).advance? number = some (line.use (time + 1)) := by
  have performed := line.performs time turns.early
  have acts := (turns.step changes).1
  rw [List.getElem?_eq_getElem turns.early] at acts
  rwa [Option.some.inj acts] at performed

theorem Turns.same_number {before' after' : CatalogAccess} (turns : line.Turns time number before after)
    (changes : before ≠ after) (turns' : line.Turns time other before' after') (changes' : before' ≠ after') :
    number = other := by
  have acts := (turns.step changes).1.symm.trans (turns'.step changes').1
  cases acts
  rfl

theorem access_later (was : line.access? early number = some before) (ordered : early ≤ late)
    (reached : late ≤ line.actions.length) :
    ∃ after, line.access? late number = some after ∧ before.place ≤ after.place := by
  induction late, ordered using Nat.le_induction with
  | base => exact ⟨before, was, Nat.le_refl _⟩
  | succ late _ ih =>
    obtain ⟨middle, is, onward⟩ := ih (by omega)
    have inside : late < line.actions.length := reached
    by_cases idle : line.actions[late] = .advance number
    · have performed := line.performs late inside
      rw [idle] at performed
      obtain ⟨before', after, _, _, here, step, moved⟩ := step_of_advance? performed
      cases Option.some.inj (is.symm.trans here)
      refine ⟨after, ?_, Nat.le_trans onward (Nat.le_of_lt step.place_lt)⟩
      rw [access?, moved, getElem?_set_of_getElem? here, if_pos rfl]
    · exact ⟨middle, (line.outcome inside).access_kept is idle, onward⟩

theorem Turns.place_lt (turns : line.Turns time number before after) (changes : before ≠ after) :
    before.place < after.place :=
  (turns.step changes).2.place_lt

-- What an access has left behind lies before all that it comes to.
theorem Turns.earlier (turns : line.Turns early number before after) (is : line.access? late number = some access)
    (changes : before ≠ after) (reached : late ≤ line.actions.length) (behind : access.place ≤ before.place) :
    late ≤ early := by
  by_contra later
  obtain ⟨found, is', onward⟩ := access_later turns.is (by omega) reached
  cases Option.some.inj (is.symm.trans is')
  have forward := turns.place_lt changes
  omega

theorem Turns.later (turns : line.Turns late number before after) (is : line.access? early number = some access)
    (ahead : before.place < access.place) : late < early := by
  by_contra notLater
  obtain ⟨found, is', onward⟩ := access_later is (by omega) (Nat.le_of_lt turns.early)
  cases Option.some.inj (turns.was.symm.trans is')
  omega

theorem Turns.same_time {after' : CatalogAccess} (turns : line.Turns early number before after)
    (turns' : line.Turns late number before after') (changes : before ≠ after) (changes' : before ≠ after') :
    early = late := by
  have one := turns.earlier turns'.was changes (Nat.le_of_lt turns'.early) (Nat.le_refl _)
  have two := turns'.earlier turns.was changes' (Nat.le_of_lt turns.early) (Nat.le_refl _)
  omega

-- An access that has come among some points came among them at an earlier time, unless accesses begin there.
theorem exists_turns_into (among : CatalogAccess → Prop) (outside : ¬ among .looking ∧ ¬ among .waitingToClear)
    (is : line.access? time number = some access) (inside : among access) (reached : time ≤ line.actions.length) :
    ∃ earlier < time, ∃ before after, line.Turns earlier number before after ∧ ¬ among before ∧ among after := by
  induction time generalizing access with
  | zero => simp [access?, line.starts, idle] at is
  | succ time ih =>
    rcases (line.outcome reached).access_cases is with same | ⟨before, _, was, _⟩ | ⟨_, begins⟩
    · obtain ⟨earlier, less, found⟩ := ih same inside (by omega)
      exact ⟨earlier, by omega, found⟩
    · by_cases already : among before
      · obtain ⟨earlier, less, found⟩ := ih was already (by omega)
        exact ⟨earlier, by omega, found⟩
      · exact ⟨time, by omega, before, access, ⟨reached, was, is⟩, already, inside⟩
    · rcases begins with ⟨_, rfl⟩ | ⟨_, rfl⟩
      · exact absurd inside outside.1
      · exact absurd inside outside.2

theorem exists_takes (is : line.access? time number = some access) (carries : access.carries list)
    (reached : time ≤ line.actions.length) : ∃ taken < time, line.Takes taken number list := by
  obtain ⟨taken, less, before, after, turns, fresh, carries'⟩ :=
    exists_turns_into (CatalogAccess.carries list) ⟨id, id⟩ is carries reached
  refine ⟨taken, less, ?_⟩
  obtain ⟨_, step⟩ := turns.step (fun same => fresh (same ▸ carries'))
  rcases step.takes carries' fresh with ⟨rfl, rfl, _⟩ | ⟨rfl, rfl, _⟩ | ⟨rfl, rfl⟩
  · exact .found turns
  · exact .foundAgain turns
  · exact .loaded turns

theorem exists_sourceAnswers (is : line.access? time number = some access) (brings : access.brings list)
    (reached : time ≤ line.actions.length) : ∃ called < time, line.SourceAnswers called number list := by
  obtain ⟨called, less, before, after, turns, fresh, brings'⟩ :=
    exists_turns_into (CatalogAccess.brings list) ⟨id, id⟩ is brings reached
  refine ⟨called, less, ?_⟩
  obtain ⟨_, step⟩ := turns.step (fun same => fresh (same ▸ brings'))
  obtain ⟨rfl, rfl⟩ := step.calls brings' fresh
  exact turns

theorem exists_loadBegins (is : line.access? time number = some access) (loading : access.isLoading = true)
    (reached : time ≤ line.actions.length) : ∃ began < time, line.LoadBegins began number := by
  obtain ⟨began, less, before, after, turns, fresh, loading'⟩ :=
    exists_turns_into (fun access => access.isLoading = true) (by decide) is loading reached
  refine ⟨began, less, ?_⟩
  obtain ⟨_, step⟩ := turns.step (fun same => fresh (same ▸ loading'))
  obtain ⟨rfl, rfl, _⟩ := step.loads loading' fresh
  exact turns

theorem LoadBegins.nothing_kept (begins : line.LoadBegins time number) : line.cached time = none :=
  ((Turns.step begins (by decide)).2.loads rfl (by decide)).2.2

-- Between its beginning and the moment that its list is kept a load holds the lock, so nobody clears.
theorem LoadBegins.isLoading (begins : line.LoadBegins early number) (keeps : line.Keeps late number list)
    (after : early < time) (upTo : time ≤ late) :
    ∃ access, line.access? time number = some access ∧ access.isLoading = true := by
  have inside := Nat.le_of_lt keeps.early
  obtain ⟨access, is, onward⟩ := access_later begins.is after (Nat.le_trans upTo inside)
  obtain ⟨access', is', onward'⟩ := access_later is upTo inside
  cases Option.some.inj (keeps.was.symm.trans is')
  exact ⟨access, is, (CatalogAccess.isLoading_iff access).mpr ⟨onward, onward'⟩⟩

theorem LoadBegins.no_wipe (begins : line.LoadBegins early number) (keeps : line.Keeps late number list)
    (after : early < time) (upTo : time ≤ late) : ¬ line.Wipes time other := by
  intro wipes
  obtain ⟨access, is, loading⟩ := begins.isLoading keeps after upTo
  have guarded := line.guarded (Nat.le_of_lt wipes.early)
  have same := guarded.exclusive is wipes.was (CatalogAccess.holdsLock_of_isLoading loading) rfl
  subst same
  cases Option.some.inj (is.symm.trans wipes.was)
  cases loading

def Quiet (line : CatalogTimeline) (time : Nat) : Prop :=
  ∀ number, (∀ list, ¬ line.Keeps time number list) ∧ ¬ line.Wipes time number

def QuietBetween (line : CatalogTimeline) (early late : Nat) : Prop :=
  ∀ time, early < time → time < late → line.Quiet time

theorem Quiet.cached (quiet : line.Quiet time) (early : time < line.actions.length) :
    line.cached (time + 1) = line.cached time := by
  rcases (line.outcome early).cached with same | ⟨number, before, after, was, is, touched⟩
  · exact same
  · rcases touched with ⟨loaded, rfl, rfl⟩ | ⟨rfl, rfl⟩
    · exact absurd ⟨early, was, is⟩ ((quiet number).1 loaded)
    · exact absurd ⟨early, was, is⟩ (quiet number).2

theorem Keeps.cached (keeps : line.Keeps time number list) : line.cached (time + 1) = some list :=
  (Turns.step keeps (by simp)).2.cached_of_keeping

theorem Wipes.cached (wipes : line.Wipes time number) : line.cached (time + 1) = none :=
  (Turns.step wipes (by decide)).2.cached_of_clearing

-- What is kept was written by the last load that kept a list, and nobody has cleared since.
theorem exists_keeps (kept : line.cached time = some list) (reached : time ≤ line.actions.length) :
    ∃ written < time, ∃ loader, line.Keeps written loader list ∧ line.QuietBetween written time := by
  induction time with
  | zero => simp [CatalogTimeline.cached, line.starts, idle, AnalyzerCatalog.make] at kept
  | succ time ih =>
    by_cases quiet : line.Quiet time
    · rw [quiet.cached reached] at kept
      obtain ⟨written, less, loader, keeps, between⟩ := ih kept (by omega)
      refine ⟨written, by omega, loader, keeps, ?_⟩
      intro moment after before
      by_cases last : moment = time
      · exact last ▸ quiet
      · exact between moment after (by omega)
    · simp only [Quiet, not_forall, not_and_or, not_not] at quiet
      obtain ⟨loader, ⟨loaded, keeps⟩ | wipes⟩ := quiet
      · cases Option.some.inj (keeps.cached.symm.trans kept)
        exact ⟨time, by omega, loader, keeps, fun moment after before => by omega⟩
      · rw [wipes.cached] at kept
        cases kept

theorem Takes.cached_or_keeps (takes : line.Takes time number list) :
    line.cached time = some list ∨ line.Keeps time number list := by
  cases takes with
  | found turns => exact .inl (turns.step (by simp)).2.cached_of_looking
  | foundAgain turns => exact .inl (turns.step (by simp)).2.cached_of_lookingAgain
  | loaded keeps => exact .inr keeps

theorem Takes.exists_keeps (takes : line.Takes time number list) (reached : time ≤ line.actions.length) :
    ∃ written ≤ time, ∃ loader, line.Keeps written loader list ∧ line.QuietBetween written time := by
  rcases takes.cached_or_keeps with kept | keeps
  · obtain ⟨written, less, found⟩ := CatalogTimeline.exists_keeps kept reached
    exact ⟨written, by omega, found⟩
  · exact ⟨time, Nat.le_refl _, number, keeps, fun moment after before => by omega⟩

end CatalogTimeline

end ScriptAudit
