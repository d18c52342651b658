import ScriptAudit.Proofs.Catalog.Timeline

namespace ScriptAudit.CatalogTimeline

open CatalogUse

variable {line : CatalogTimeline} {time number reader loader clearer : Nat} {list : List ExternalAnalyzer}
  {began called written taken wiped returned entered : Nat}

def Pending (line : CatalogTimeline) (time number : Nat) : Prop :=
  ∃ access, line.access? time number = some access ∧ access.isDone = false

-- The load that brought a reader's list: it began, the source answered it, it kept the answer, and the reader took the
-- list before anybody kept another or cleared.
structure Origin (line : CatalogTimeline) (reader : Nat) (list : List ExternalAnalyzer)
    (loader began called written taken : Nat) : Prop where
  begins : line.LoadBegins began loader
  answers : line.SourceAnswers called loader list
  said : (line.use called).catalog.source = list
  keeps : line.Keeps written loader list
  takes : line.Takes taken reader list
  ordered : began < called ∧ called < written ∧ written ≤ taken
  quiet : line.QuietBetween written taken

theorem Takes.early (takes : line.Takes time number list) : time < line.actions.length := by
  cases takes with
  | found turns => exact turns.early
  | foundAgain turns => exact turns.early
  | loaded keeps => exact keeps.early

theorem Takes.pending (takes : line.Takes time number list) : line.Pending time number := by
  cases takes with
  | found turns => exact ⟨_, turns.was, rfl⟩
  | foundAgain turns => exact ⟨_, turns.was, rfl⟩
  | loaded keeps => exact ⟨_, keeps.was, rfl⟩

theorem Takes.exists_moment (takes : line.Takes taken reader list) :
    ∃ moment ≤ taken + 1, line.cached moment = some list ∧ line.Pending moment reader := by
  rcases takes.cached_or_keeps with kept | keeps
  · exact ⟨taken, by omega, kept, takes.pending⟩
  · exact ⟨taken + 1, Nat.le_refl _, keeps.cached, _, keeps.is, rfl⟩

theorem exists_origin (takes : line.Takes taken reader list) :
    ∃ loader began called written, line.Origin reader list loader began called written taken := by
  obtain ⟨written, before, loader, keeps, quiet⟩ := takes.exists_keeps (Nat.le_of_lt takes.early)
  obtain ⟨called, asked, answers⟩ := exists_sourceAnswers keeps.was rfl (Nat.le_of_lt keeps.early)
  obtain ⟨began, earlier, begins⟩ := exists_loadBegins answers.was rfl (Nat.le_of_lt answers.early)
  have said := (Turns.step answers (by simp)).2.source_of_loading
  exact ⟨loader, began, called, written, begins, answers, said, keeps, takes, ⟨earlier, asked, before⟩, quiet⟩

theorem wipes_before_returns (wipes : line.Wipes wiped clearer) (returns : line.ClearReturns returned clearer) :
    wiped < returned :=
  Turns.later wipes returns.was (by decide)

-- Before its reading begins a reader has no access, so it is not pending either.
theorem Begins.lt_of_pending (begins : line.Begins entered reader) (pending : line.Pending time reader) :
    entered < time := by
  by_contra notLater
  obtain ⟨inside, _⟩ := List.getElem?_eq_some_iff.mp begins.1
  obtain ⟨access, is, _⟩ := pending
  obtain ⟨later, there, _⟩ := access_later is (by omega) (Nat.le_of_lt inside)
  obtain ⟨old, _⟩ := List.getElem?_eq_some_iff.mp there
  have new := begins.2
  omega

-- A clearing does not wipe between the beginning of the load and the moment that the reader takes its list: up to the
-- keeping the loader has the lock, and afterwards it is quiet.
theorem Origin.wiped_before (origin : line.Origin reader list loader began called written taken)
    (wipes : line.Wipes wiped clearer) (early : wiped < taken) : wiped < began := by
  have notBegan : wiped ≠ began := by
    rintro rfl
    cases Turns.same_number wipes (by decide) origin.begins (by decide)
    cases Option.some.inj (wipes.was.symm.trans origin.begins.was)
  have notDuring : ¬ (began < wiped ∧ wiped ≤ written) := by
    intro ⟨after, upTo⟩
    exact origin.begins.no_wipe origin.keeps after upTo wipes
  have notSince : ¬ written < wiped := by
    intro since
    exact (origin.quiet wiped since early clearer).2 wipes
  omega

theorem no_stale_list (line : CatalogTimeline) (reached : time ≤ line.actions.length)
    (answered : line.access? time reader = some (.answered list)) :
    (∃ moment ≤ time, line.cached moment = some list ∧ line.Pending moment reader) ∧
      (∃ loader began called written taken, line.Origin reader list loader began called written taken) ∧
        ∀ loader began called written taken, line.Origin reader list loader began called written taken →
          ∀ clearer wiped returned entered, line.Wipes wiped clearer → line.ClearReturns returned clearer →
            line.Begins entered reader → returned < entered → wiped < began := by
  obtain ⟨taken, less, takes⟩ := exists_takes answered rfl reached
  refine ⟨?_, ?_, ?_⟩
  · obtain ⟨moment, upTo, kept, pending⟩ := takes.exists_moment
    exact ⟨moment, by omega, kept, pending⟩
  · obtain ⟨loader, began, called, written, origin⟩ := exists_origin takes
    exact ⟨loader, began, called, written, taken, origin⟩
  · intro loader began called written taken origin clearer wiped returned entered wipes returns begins before
    have first := wipes_before_returns wipes returns
    have last := begins.lt_of_pending origin.takes.pending
    exact origin.wiped_before wipes (by omega)

-- A clearing that is asked for while a load is under way, and a reader that begins after the clearing has returned. The
-- source has changed its answer since the first load called it.
def clearedInFlight : List CatalogAction :=
  [.beginReading, .advance 0, .advance 0, .advance 0, .advance 0, .replaceSource [⟨"New", []⟩], .beginClearing,
    .advance 0, .advance 0, .advance 0, .advance 1, .advance 1, .advance 1, .beginReading, .advance 2, .advance 2,
    .advance 2, .advance 2, .advance 2, .advance 2, .advance 2]

def clearedLine : CatalogTimeline := ofRun [⟨"Old", []⟩] clearedInFlight (by decide)

theorem no_stale_list_clearedLine : 21 ≤ clearedLine.actions.length ∧
    clearedLine.access? 21 2 = some (.answered [⟨"New", []⟩]) ∧ clearedLine.LoadBegins 3 0 ∧ clearedLine.Wipes 11 1 ∧
      clearedLine.ClearReturns 12 1 ∧ clearedLine.Begins 13 2 ∧ ∃ loader began called written taken,
        clearedLine.Origin 2 [⟨"New", []⟩] loader began called written taken ∧ 11 < began := by
  have reached : 21 ≤ clearedLine.actions.length := by decide
  have answered : clearedLine.access? 21 2 = some (.answered [⟨"New", []⟩]) := by decide
  have wipes : clearedLine.Wipes 11 1 := ⟨by decide, by decide, by decide⟩
  have returns : clearedLine.ClearReturns 12 1 := ⟨by decide, by decide, by decide⟩
  have begins : clearedLine.Begins 13 2 := ⟨by decide, by decide⟩
  obtain ⟨_, ⟨loader, began, called, written, taken, origin⟩, fresh⟩ := no_stale_list clearedLine reached answered
  exact ⟨reached, answered, ⟨by decide, by decide, by decide⟩, wipes, returns, begins, loader, began, called, written,
    taken, origin, fresh loader began called written taken origin 1 11 12 13 wipes returns begins (by decide)⟩

end ScriptAudit.CatalogTimeline
