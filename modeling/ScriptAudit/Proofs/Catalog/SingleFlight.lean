import ScriptAudit.Proofs.Catalog.Timeline

namespace ScriptAudit.CatalogTimeline

open CatalogUse

variable {line : CatalogTimeline} {time early late number other : Nat} {access : CatalogAccess}
  {list : List ExternalAnalyzer}

theorem LoadBegins.begun (begins : line.LoadBegins time number) :
    (line.use (time + 1)).begun = (line.use time).begun + 1 := by
  obtain ⟨before, after, _, _, here, step, moved⟩ := step_of_advance? (Turns.advanced begins (by decide))
  cases Option.some.inj (begins.was.symm.trans here)
  have now := begins.is
  rw [access?, moved, getElem?_set_of_getElem? here, if_pos rfl] at now
  cases now
  rw [moved]
  exact (counted_of_step here step).begun

theorem isClearing_eq_false (never : .beginClearing ∉ line.actions) (is : line.access? time number = some access)
    (reached : time ≤ line.actions.length) : access.isClearing = false := by
  induction time generalizing access with
  | zero => simp [access?, line.starts, idle] at is
  | succ time ih =>
    rcases (line.outcome reached).access_cases is with same | ⟨before, _, was, step⟩ | ⟨_, begins⟩
    · exact ih same (by omega)
    · exact step.isClearing.trans (ih was (by omega))
    · rcases begins with ⟨_, rfl⟩ | ⟨clears, _⟩
      · rfl
      · exact absurd (clears ▸ List.getElem_mem reached) never

theorem wiped_eq_zero (never : .beginClearing ∉ line.actions) (reached : time ≤ line.actions.length) :
    (line.use time).wiped = 0 := by
  refine List.countP_eq_zero.mpr fun access member wiped => ?_
  obtain ⟨number, is⟩ := List.getElem?_of_mem member
  have clearing := CatalogAccess.isClearing_of_hasWiped wiped
  rw [isClearing_eq_false never is reached] at clearing
  cases clearing

theorem LoadBegins.not_lt (never : .beginClearing ∉ line.actions) (first : line.LoadBegins early number)
    (second : line.LoadBegins late other) : ¬ early < late := by
  intro earlier
  have reached : late + 1 ≤ line.actions.length := second.early
  have bounded := (line.accounted reached).bounded
  rw [wiped_eq_zero never second.early, second.begun] at bounded
  have between := begun_le_of_le earlier (Nat.le_of_lt second.early)
  rw [first.begun] at between
  omega

theorem LoadBegins.unique (never : .beginClearing ∉ line.actions) (first : line.LoadBegins early number)
    (second : line.LoadBegins late other) : early = late ∧ number = other := by
  have same : early = late := by
    have one := first.not_lt never second
    have two := second.not_lt never first
    omega
  subst same
  exact ⟨rfl, Turns.same_number first (by decide) second (by decide)⟩

theorem SourceAnswers.unique {list' : List ExternalAnalyzer} (never : .beginClearing ∉ line.actions)
    (first : line.SourceAnswers early number list) (second : line.SourceAnswers late other list') :
    early = late ∧ number = other ∧ list = list' := by
  obtain ⟨began, _, begins⟩ := exists_loadBegins first.was rfl (Nat.le_of_lt first.early)
  obtain ⟨began', _, begins'⟩ := exists_loadBegins second.was rfl (Nat.le_of_lt second.early)
  obtain ⟨_, rfl⟩ := begins.unique never begins'
  have same := Turns.same_time first second (by simp) (by simp)
  subst same
  cases Option.some.inj (first.is.symm.trans second.is)
  exact ⟨rfl, rfl, rfl⟩

theorem exists_sourceAnswers_of_answered (is : line.access? time number = some (.answered list))
    (reached : time ≤ line.actions.length) : ∃ called < time, ∃ loader, line.SourceAnswers called loader list := by
  obtain ⟨taken, less, takes⟩ := exists_takes is rfl reached
  obtain ⟨written, earlier, loader, keeps, _⟩ := takes.exists_keeps (by omega)
  obtain ⟨called, before, answers⟩ := exists_sourceAnswers keeps.was rfl (Nat.le_of_lt keeps.early)
  exact ⟨called, by omega, loader, answers⟩

-- No load begins or goes on while a list is kept, and no two accesses load at once.
structure LoadsAlone (line : CatalogTimeline) (time : Nat) : Prop where
  begins : ∀ loader, line.LoadBegins time loader → line.cached time = none
  vacant : ∀ number access, line.access? time number = some access → access.isLoading = true → line.cached time = none
  alone : ∀ (number other : Nat) (access access' : CatalogAccess), line.access? time number = some access →
    line.access? time other = some access' → access.isLoading = true → access'.isLoading = true → number = other

-- The source is asked once at most, and whoever is answered is answered with what it said then.
structure SharesOneList (line : CatalogTimeline) : Prop where
  once : ∀ (early late loader other : Nat) (list list' : List ExternalAnalyzer),
    line.SourceAnswers early loader list → line.SourceAnswers late other list' →
      early = late ∧ loader = other ∧ list = list'
  shared : ∀ (time reader : Nat) (list : List ExternalAnalyzer), time ≤ line.actions.length →
    line.access? time reader = some (.answered list) → ∃ called < time, ∃ loader, line.SourceAnswers called loader list
  alike : ∀ (early late reader other : Nat) (list list' : List ExternalAnalyzer), early ≤ line.actions.length →
    late ≤ line.actions.length → line.access? early reader = some (.answered list) →
      line.access? late other = some (.answered list') → list = list'

-- Every access comes to its end: whoever moves lowers the number of steps left, and if nobody can move all are done.
structure ComesToEnd (use : CatalogUse) : Prop where
  moves : ∀ (number : Nat) (next : CatalogUse), use.advance? number = some next → next.stepsLeft < use.stepsLeft
  stops : (∀ number, use.advance? number = none) → ∀ access ∈ use.accesses, access.isDone = true

theorem loadsAlone (line : CatalogTimeline) (reached : time ≤ line.actions.length) : line.LoadsAlone time := by
  have guarded := line.guarded reached
  refine ⟨fun _ begins => begins.nothing_kept, guarded.vacant, ?_⟩
  intro number other access access' is is' loading loading'
  exact guarded.exclusive is is' (CatalogAccess.holdsLock_of_isLoading loading)
    (CatalogAccess.holdsLock_of_isLoading loading')

theorem sharesOneList (line : CatalogTimeline) (never : .beginClearing ∉ line.actions) : line.SharesOneList := by
  refine ⟨fun early late loader other list list' first second => first.unique never second, ?_, ?_⟩
  · intro time reader list reached is
    exact exists_sourceAnswers_of_answered is reached
  · intro early late reader other list list' reached reached' is is'
    obtain ⟨_, _, _, answers⟩ := exists_sourceAnswers_of_answered is reached
    obtain ⟨_, _, _, answers'⟩ := exists_sourceAnswers_of_answered is' reached'
    exact (answers.unique never answers').2.2

theorem single_flight (line : CatalogTimeline) (reached : time ≤ line.actions.length) :
    line.LoadsAlone time ∧ (line.use time).catalog.loads ≤ (line.use time).wiped + 1 ∧
      (.beginClearing ∉ line.actions → line.SharesOneList) ∧ ComesToEnd (line.use time) := by
  refine ⟨line.loadsAlone reached, ?_, line.sharesOneList, ?_, (line.guarded reached).done_of_stuck⟩
  · have bounded := (line.accounted reached).bounded
    rw [CatalogUse.begun] at bounded
    omega
  · intro number next advanced
    exact stepsLeft_lt_of_advance? advanced

-- Two readers that find nothing, one of them after the other has called the source, and a reader that comes late. The
-- source is empty when it is called and has an analyzer soon afterwards.
def threeReadings : List CatalogAction :=
  [.beginReading, .beginReading, .advance 0, .advance 0, .advance 0, .advance 0, .replaceSource [⟨"Late", []⟩],
    .advance 1, .advance 0, .advance 0, .advance 0, .advance 1, .advance 1, .advance 1, .beginReading, .advance 2]

def threeReaders : CatalogTimeline := ofRun [] threeReadings (by decide)

theorem single_flight_threeReaders : 16 ≤ threeReaders.actions.length ∧ .beginClearing ∉ threeReaders.actions ∧
    (threeReaders.use 16).answers = [[], [], []] ∧
      (threeReaders.use 16).catalog.loads ≤ (threeReaders.use 16).wiped + 1 ∧ threeReaders.SharesOneList := by
  have reached : 16 ≤ threeReaders.actions.length := by decide
  have never : .beginClearing ∉ threeReaders.actions := by decide
  have flight := single_flight threeReaders reached
  exact ⟨reached, never, by decide, flight.2.1, flight.2.2.1 never⟩

end ScriptAudit.CatalogTimeline
