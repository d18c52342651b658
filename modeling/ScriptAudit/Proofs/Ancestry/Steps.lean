import Mathlib.Data.Prod.Lex
import Mathlib.Logic.Relation
import ScriptAudit.Proofs.Ancestry

namespace ScriptAudit

namespace TypeHierarchy

variable {hierarchy : TypeHierarchy} {bases visited : List String} {depth : Nat}

-- What each call in progress has left of its bases, the innermost call first, and the names visited and looked up by
-- now, the latest first. A search without calls is over.
structure SearchState where
  calls : List (List String)
  visited : List String
  lookups : List String
  found : Bool

namespace SearchState

variable {state next last : SearchState}

def start (bases visited : List String) : SearchState := ⟨[bases], visited, [], false⟩

-- What may happen at the next base of the innermost call. The component base ends all calls at once, and a call that
-- has no base left returns to the one that made it.
inductive Step (hierarchy : TypeHierarchy) : SearchState → SearchState → Prop where
  | finish {base : String} {rest : List String} {outer : List (List String)} {visited lookups : List String}
      (component : TypeName.isComponentRoot base = true) :
      Step hierarchy ⟨(base :: rest) :: outer, visited, lookups, false⟩ ⟨[], visited, lookups, true⟩
  | skip {base : String} {rest : List String} {outer : List (List String)} {visited lookups : List String}
      (plain : TypeName.isComponentRoot base = false) (seen : TypeName.normalize base ∈ visited) :
      Step hierarchy ⟨(base :: rest) :: outer, visited, lookups, false⟩ ⟨rest :: outer, visited, lookups, false⟩
  | miss {base : String} {rest : List String} {outer : List (List String)} {visited lookups : List String}
      (plain : TypeName.isComponentRoot base = false) (fresh : TypeName.normalize base ∉ visited)
      (unknown : hierarchy.baseTypes (TypeName.normalize base) = none) :
      Step hierarchy ⟨(base :: rest) :: outer, visited, lookups, false⟩
        ⟨rest :: outer, TypeName.normalize base :: visited, TypeName.normalize base :: lookups, false⟩
  | enter {base : String} {rest above : List String} {outer : List (List String)} {visited lookups : List String}
      (plain : TypeName.isComponentRoot base = false) (fresh : TypeName.normalize base ∉ visited)
      (known : hierarchy.baseTypes (TypeName.normalize base) = some above) :
      Step hierarchy ⟨(base :: rest) :: outer, visited, lookups, false⟩
        ⟨above :: rest :: outer, TypeName.normalize base :: visited, TypeName.normalize base :: lookups, false⟩
  | leave {outer : List (List String)} {visited lookups : List String} :
      Step hierarchy ⟨[] :: outer, visited, lookups, false⟩ ⟨outer, visited, lookups, false⟩

def Run (hierarchy : TypeHierarchy) : SearchState → SearchState → Prop := Relation.ReflTransGen (Step hierarchy)

theorem Step.unique {other : SearchState} (step : Step hierarchy state next) (step' : Step hierarchy state other) :
    next = other := by
  cases step with
  | finish component =>
    cases step' with
    | finish => rfl
    | skip plain => simp [plain] at component
    | miss plain => simp [plain] at component
    | enter plain => simp [plain] at component
  | skip plain seen =>
    cases step' with
    | finish component => simp [plain] at component
    | skip => rfl
    | miss _ fresh => exact absurd seen fresh
    | enter _ fresh => exact absurd seen fresh
  | miss plain fresh unknown =>
    cases step' with
    | finish component => simp [plain] at component
    | skip _ seen => exact absurd seen fresh
    | miss => rfl
    | enter _ _ known => simp [unknown] at known
  | enter plain fresh known =>
    cases step' with
    | finish component => simp [plain] at component
    | skip _ seen => exact absurd seen fresh
    | miss _ _ unknown => simp [known] at unknown
    | enter _ _ known' =>
      rw [known] at known'
      cases known'
      rfl
  | leave =>
    cases step' with
    | leave => rfl

theorem Step.calls_ne_nil (step : Step hierarchy state next) : state.calls ≠ [] := by
  cases step <;> simp

theorem Run.eq_of_idle (run : Run hierarchy state last) (idle : state.calls = []) : state = last := by
  rcases Relation.ReflTransGen.cases_head run with same | ⟨next, step, _⟩
  · exact same
  · exact absurd idle step.calls_ne_nil

theorem Run.reaches_end {first : SearchState} (ended : Run hierarchy first last) (idle : last.calls = [])
    (run : Run hierarchy first state) : Run hierarchy state last := by
  have forward : Relator.RightUnique (Step hierarchy) := fun _ _ _ step step' => step.unique step'
  rcases Relation.ReflTransGen.total_of_right_unique forward ended run with beyond | before
  · rw [Run.eq_of_idle beyond idle]
    exact .refl
  · exact before

def pending : List (List String) → Nat
  | [] => 0
  | bases :: outer => bases.length + 1 + pending outer

-- The names that may still be entered, and within one of them what is left to do.
def workLeft (hierarchy : TypeHierarchy) (state : SearchState) : Nat × Nat :=
  ((hierarchy.unseen state.visited).card, pending state.calls)

theorem Step.workLeft_lt (step : Step hierarchy state next) :
    Prod.Lex (· < ·) (· < ·) (next.workLeft hierarchy) (state.workLeft hierarchy) := by
  cases step with
  | finish component => exact Prod.Lex.right _ (by simp only [pending]; omega)
  | skip plain seen => exact Prod.Lex.right _ (by simp [pending])
  | @miss base rest outer visited lookups plain fresh unknown =>
    have kept := List.subset_cons_self (TypeName.normalize base) visited
    have fewer := Finset.card_le_card (unseen_antitone hierarchy kept)
    rcases Nat.eq_or_lt_of_le fewer with same | less
    · simp only [workLeft, same]
      exact Prod.Lex.right _ (by simp [pending])
    · exact Prod.Lex.left _ _ less
  | enter plain fresh known => exact Prod.Lex.left _ _ (unseen_cons_lt known fresh)
  | leave => exact Prod.Lex.right _ (by simp [pending])

theorem wellFounded_step (hierarchy : TypeHierarchy) :
    WellFounded fun next state => Step hierarchy state next := by
  have measured : WellFounded (InvImage (Prod.Lex (· < ·) (· < ·)) (workLeft hierarchy)) :=
    InvImage.wf _ (Prod.lex Nat.lt_wfRel Nat.lt_wfRel).wf
  exact Subrelation.wf (fun step => step.workLeft_lt) measured

-- A call that the search answers is a run of steps above the calls that wait for it.
theorem run_search (enough : (hierarchy.unseen visited).card ≤ depth) (outer : List (List String))
    (lookups : List String) : ∃ lookups', Run hierarchy ⟨bases :: outer, visited, lookups, false⟩
      ⟨if (hierarchy.search depth bases visited).1 then [] else outer, (hierarchy.search depth bases visited).2,
        lookups', (hierarchy.search depth bases visited).1⟩ := by
  fun_induction search hierarchy depth bases visited generalizing outer lookups with
  | case1 => exact ⟨lookups, .single .leave⟩
  | case2 visited depth base rest component => exact ⟨lookups, .single (.finish component)⟩
  | case3 visited depth base rest plain seen ih =>
    obtain ⟨lookups', run⟩ := ih enough outer lookups
    exact ⟨lookups', .head (.skip (by simpa using plain) seen) run⟩
  | case4 visited base rest plain fresh extended depth unknown ih =>
    have kept := List.subset_cons_self (TypeName.normalize base) visited
    have fewer := Finset.card_le_card (unseen_antitone hierarchy kept)
    obtain ⟨lookups', run⟩ := ih (fewer.trans enough) outer (TypeName.normalize base :: lookups)
    exact ⟨lookups', .head (.miss (by simpa using plain) fresh unknown) run⟩
  | case5 visited base rest plain fresh extended above known =>
    have fewer := unseen_cons_lt known fresh
    omega
  | case6 visited base rest plain fresh extended above depth known middle hit ih =>
    have fewer : (hierarchy.unseen extended).card < (hierarchy.unseen visited).card := unseen_cons_lt known fresh
    obtain ⟨lookups', run⟩ := ih (by omega) (rest :: outer) (TypeName.normalize base :: lookups)
    rw [hit] at run
    exact ⟨lookups', .head (.enter (by simpa using plain) fresh known) run⟩
  | case7 visited base rest plain fresh extended above depth known middle missed inner rec =>
    have fewer : (hierarchy.unseen extended).card < (hierarchy.unseen visited).card := unseen_cons_lt known fresh
    have kept : extended ⊆ middle := by
      intro name old
      simpa [missed] using mem_search_of_mem hierarchy depth above old
    have remaining := Finset.card_le_card (unseen_antitone hierarchy kept)
    obtain ⟨lookups', run⟩ := inner (by omega) (rest :: outer) (TypeName.normalize base :: lookups)
    obtain ⟨lookups'', run'⟩ := rec (by omega) outer lookups'
    rw [missed] at run
    exact ⟨lookups'', .head (.enter (by simpa using plain) fresh known) (run.trans run')⟩

end SearchState

def knownNames (hierarchy : TypeHierarchy) : Finset String :=
  hierarchy.names.toFinset.filter fun name =>
    TypeName.normalize name = name ∧ (hierarchy.baseTypes name).isSome = true

theorem mem_knownNames {name : String} : name ∈ hierarchy.knownNames ↔
    TypeName.normalize name = name ∧ (hierarchy.baseTypes name).isSome = true := by
  rw [knownNames, Finset.mem_filter, List.mem_toFinset]
  constructor
  · exact And.right
  · intro met
    exact ⟨hierarchy.known name met.1 met.2, met⟩

def entered (hierarchy : TypeHierarchy) (lookups : List String) : List String :=
  lookups.filter fun name => (hierarchy.baseTypes name).isSome

namespace SearchState

variable {state next : SearchState}

-- What holds all along a search that starts with some visited names: lookups are what it visits itself, and each call
-- but the first was made at a lookup of its own.
structure Tracked (hierarchy : TypeHierarchy) (visited : List String) (state : SearchState) : Prop where
  added : state.visited = state.lookups ++ visited
  simple : ∀ name ∈ state.lookups, TypeName.normalize name = name
  once : state.lookups.Nodup
  fresh : ∀ name ∈ state.lookups, name ∉ visited
  nested : state.calls.length ≤ (hierarchy.entered state.lookups).length + 1

theorem tracked_start (hierarchy : TypeHierarchy) (bases visited : List String) :
    Tracked hierarchy visited (start bases visited) where
  added := rfl
  simple := by simp [start]
  once := List.nodup_nil
  fresh := by simp [start]
  nested := by simp [start]

theorem Tracked.look_up {base : String} {calls calls' : List (List String)} {seen lookups : List String} {found : Bool}
    (tracked : Tracked hierarchy visited ⟨calls, seen, lookups, found⟩) (new : TypeName.normalize base ∉ seen)
    (nested : calls'.length ≤ (hierarchy.entered (TypeName.normalize base :: lookups)).length + 1) :
    Tracked hierarchy visited
      ⟨calls', TypeName.normalize base :: seen, TypeName.normalize base :: lookups, found⟩ := by
  obtain ⟨added, simple, once, fresh, _⟩ := tracked
  simp only at added simple once fresh
  rw [added, List.mem_append, not_or] at new
  refine ⟨?_, ?_, List.nodup_cons.mpr ⟨new.1, once⟩, ?_, nested⟩
  · rw [added]
    rfl
  · intro name member
    rcases List.mem_cons.mp member with rfl | old
    · exact TypeName.normalize_normalize base
    · exact simple name old
  · intro name member
    rcases List.mem_cons.mp member with rfl | old
    · exact new.2
    · exact fresh name old

theorem Tracked.step (tracked : Tracked hierarchy visited state) (step : Step hierarchy state next) :
    Tracked hierarchy visited next := by
  have nested := tracked.nested
  cases step with
  | finish component => exact ⟨tracked.added, tracked.simple, tracked.once, tracked.fresh, Nat.zero_le _⟩
  | skip plain seen => exact ⟨tracked.added, tracked.simple, tracked.once, tracked.fresh, nested⟩
  | miss plain fresh unknown =>
    refine tracked.look_up fresh ?_
    simpa [entered, unknown] using nested
  | enter plain fresh known =>
    refine tracked.look_up fresh ?_
    simpa [entered, known] using nested
  | leave => exact ⟨tracked.added, tracked.simple, tracked.once, tracked.fresh, Nat.le_of_succ_le nested⟩

theorem tracked_of_run (run : Run hierarchy (start bases visited) state) : Tracked hierarchy visited state := by
  induction run with
  | refl => exact tracked_start hierarchy bases visited
  | tail _ step ih => exact ih.step step

theorem Tracked.calls_le (tracked : Tracked hierarchy visited state) :
    state.calls.length ≤ hierarchy.knownNames.card + 1 := by
  have once : (hierarchy.entered state.lookups).Nodup := tracked.once.filter _
  have known : (hierarchy.entered state.lookups).toFinset ⊆ hierarchy.knownNames := by
    intro name member
    have listed := List.mem_filter.mp (List.mem_toFinset.mp member)
    exact mem_knownNames.mpr ⟨tracked.simple name listed.1, listed.2⟩
  have fewer := Finset.card_le_card known
  have nested := tracked.nested
  rw [List.toFinset_card_of_nodup once] at fewer
  omega

-- A search that comes to an end with an answer, and what it may cost. More nesting than the bound changes nothing.
structure Ends (hierarchy : TypeHierarchy) (bases visited : List String) (answer : Bool) : Prop where
  ended : ∃ last, last.calls = [] ∧ last.found = answer ∧
    (∀ depth, hierarchy.depthBound ≤ depth → hierarchy.search depth bases visited = (last.found, last.visited)) ∧
      ∀ state, Run hierarchy (start bases visited) state → Run hierarchy state last
  finite : Acc (fun next state => Step hierarchy state next) (start bases visited)
  once : ∀ state, Run hierarchy (start bases visited) state → state.lookups.Nodup ∧
    ∀ name ∈ state.lookups, TypeName.normalize name = name ∧ name ∉ visited
  shallow : ∀ state, Run hierarchy (start bases visited) state →
    state.calls.length ≤ hierarchy.knownNames.card + 1

theorem ends_reachesComponent (hierarchy : TypeHierarchy) (bases visited : List String) :
    Ends hierarchy bases visited (hierarchy.reachesComponent bases visited) := by
  refine ⟨?_, (wellFounded_step hierarchy).apply _, ?_, ?_⟩
  · have searched (depth : Nat) (enough : hierarchy.depthBound ≤ depth) : ∃ lookups,
        Run hierarchy (start bases visited) ⟨[], (hierarchy.search depth bases visited).2, lookups,
          (hierarchy.search depth bases visited).1⟩ := by
      obtain ⟨lookups, run⟩ := run_search ((unseen_card_le_depthBound hierarchy visited).trans enough) [] []
      rw [ite_self] at run
      exact ⟨lookups, run⟩
    obtain ⟨lookups, run⟩ := searched hierarchy.depthBound (Nat.le_refl _)
    refine ⟨_, rfl, rfl, ?_, fun state run' => run.reaches_end rfl run'⟩
    intro depth enough
    obtain ⟨lookups', run'⟩ := searched depth enough
    have same := (run.reaches_end rfl run').eq_of_idle rfl
    rw [SearchState.mk.injEq] at same
    exact Prod.ext same.2.2.2 same.2.1
  · intro state run
    have tracked := tracked_of_run run
    exact ⟨tracked.once, fun name member => ⟨tracked.simple name member, tracked.fresh name member⟩⟩
  · intro state run
    exact (tracked_of_run run).calls_le

end SearchState

-- A type's own name is looked up as it is given before the search, and the search does not look its simple name up.
theorem searches_end (hierarchy : TypeHierarchy) :
    (∀ name, hierarchy.baseTypes name = none → hierarchy.isComponent name = false) ∧
    (∀ name bases, hierarchy.baseTypes name = some bases →
      SearchState.Ends hierarchy bases [TypeName.normalize name] (hierarchy.isComponent name)) ∧
    (∀ source declaration, SearchState.Ends hierarchy (declaration.declaredBases source)
      ((declaration.declaredName source).map TypeName.normalize).toList
        (isComponentDeclaration hierarchy source declaration)) ∧
    ∀ name, name ∈ hierarchy.knownNames ↔
      TypeName.normalize name = name ∧ (hierarchy.baseTypes name).isSome = true := by
  refine ⟨?_, ?_, ?_, fun name => mem_knownNames⟩
  · intro name unknown
    simp [isComponent, unknown]
  · intro name bases known
    have answer : hierarchy.isComponent name = hierarchy.reachesComponent bases [TypeName.normalize name] := by
      simp [isComponent, known]
    rw [answer]
    exact SearchState.ends_reachesComponent hierarchy bases _
  · intro source declaration
    exact SearchState.ends_reachesComponent hierarchy _ _

def entangled : TypeHierarchy := ofTable [("A", ["N.B<int>", "C"]), ("B", ["A", "C", "B"])]

theorem searches_end_entangled :
    entangled.baseTypes "A" = some ["N.B<int>", "C"] ∧ entangled.knownNames = {"A", "B"} ∧
    SearchState.Ends entangled ["N.B<int>", "C"] ["A"] (entangled.isComponent "A") ∧
    entangled.baseTypes "C" = none ∧ entangled.isComponent "C" = false := by
  obtain ⟨unknown, known, _, _⟩ := searches_end entangled
  have simple : TypeName.normalize "A" = "A" := by decide +kernel
  have ends := known "A" _ rfl
  rw [simple] at ends
  exact ⟨rfl, by decide +kernel, ends, rfl, unknown "C" rfl⟩

end TypeHierarchy

end ScriptAudit
