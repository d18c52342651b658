import ScriptAudit.Proofs.Syntax.Site

namespace ScriptAudit

def Descent.ascent (descent : Descent) : Ascent := ⟨descent.number, descent.parent⟩

namespace Cursor

open SyntaxNode

def site (top : Site) (cursor : Cursor) : Site :=
  ⟨cursor.node, cursor.descents.map Descent.ascent ++ top.ascents⟩

mutual

theorem map_site_below (top : Site) (descents : List Descent) (node : SyntaxNode) :
    (below descents node).map (site top) = Site.sitesBelow (descents.map Descent.ascent ++ top.ascents) node := by
  cases node with
  | mk label children =>
    rw [below, Site.sitesBelow]
    exact map_site_among top _ descents 0 children

theorem map_site_among (top : Site) (parent : SyntaxNode) (descents : List Descent) (number : Nat)
    (nodes : List SyntaxNode) :
    (among parent descents number nodes).map (site top) =
      Site.sitesAmong (site top ⟨parent, descents⟩) number nodes := by
  cases nodes with
  | nil => rfl
  | cons node rest =>
    rw [among, Site.sitesAmong, List.map_cons, List.map_append, map_site_below, map_site_among]
    rfl

end

inductive Reached (node : SyntaxNode) : Cursor → Prop where
  | start : Reached node (start node)
  | down {cursor next : Cursor} (reached : Reached node cursor) (moved : cursor.firstChild? = some next) :
      Reached node next
  | right {cursor next : Cursor} (reached : Reached node cursor) (moved : cursor.nextSibling? = some next) :
      Reached node next
  | up {cursor next : Cursor} (reached : Reached node cursor) (moved : cursor.parent? = some next) :
      Reached node next

-- What a cursor holds of its way: each node that was entered, with the siblings to the right of it, is the end of the
-- children of the node above it, from its number on.
inductive Traces (top : SyntaxNode) : SyntaxNode → List Descent → Prop where
  | start : Traces top top []
  | down {parent node : SyntaxNode} {number : Nat} {right : List SyntaxNode} {above : List Descent}
      (traced : Traces top parent above) (held : parent.children.drop number = node :: right) :
      Traces top node (⟨parent, number, right⟩ :: above)

variable {node : SyntaxNode} {cursor next : Cursor}

theorem traces_firstChild? (traced : Traces node cursor.node cursor.descents) (moved : cursor.firstChild? = some next) :
    Traces node next.node next.descents := by
  unfold firstChild? at moved
  split at moved
  · cases moved
  · next child right children =>
    cases moved
    exact .down traced children

theorem traces_nextSibling? (traced : Traces node cursor.node cursor.descents)
    (moved : cursor.nextSibling? = some next) : Traces node next.node next.descents := by
  unfold nextSibling? at moved
  split at moved
  · next parent number sibling right above descents =>
    cases moved
    rw [descents] at traced
    cases traced with
    | down traced held =>
      refine .down traced ?_
      rw [← List.drop_drop, held]
      rfl
  · cases moved

theorem traces_parent? (traced : Traces node cursor.node cursor.descents) (moved : cursor.parent? = some next) :
    Traces node next.node next.descents := by
  unfold parent? at moved
  split at moved
  · cases moved
  · next descent above descents =>
    cases moved
    rw [descents] at traced
    cases traced with
    | down traced held => exact traced

theorem Reached.traces (reached : Reached node cursor) : Traces node cursor.node cursor.descents := by
  induction reached with
  | start => exact .start
  | down _ moved ih => exact traces_firstChild? ih moved
  | right _ moved ih => exact traces_nextSibling? ih moved
  | up _ moved ih => exact traces_parent? ih moved

theorem Traces.site_eq_or_under {top : Site} {descents : List Descent} (traced : Traces top.node node descents) :
    site top ⟨node, descents⟩ = top ∨ Site.Under top (site top ⟨node, descents⟩) := by
  induction traced with
  | start => exact .inl rfl
  | @down parent node number right above traced held ih =>
    have child : parent.children[number]? = some node := by
      rw [← Nat.add_zero number, ← List.getElem?_drop, held]
      rfl
    have below := Site.under_child_iff.mpr ⟨child, ih.imp_left Eq.symm⟩
    exact .inr below

theorem Reached.isAtStart_iff {top : Site} (reached : Reached top.node cursor) :
    cursor.isAtStart = true ↔ cursor.site top = top := by
  obtain ⟨node, descents⟩ := cursor
  have traced := reached.traces
  rw [isAtStart, List.isEmpty_iff]
  constructor
  · rintro rfl
    cases traced
    rfl
  · intro same
    have level := congrArg (fun site : Site => site.ascents.length) same
    simpa [site] using level

-- Neither loop of a walk goes on for ever, wherever it stands.

theorem wellFounded_next? : WellFounded fun next cursor : Cursor => cursor.next? = some next := by
  refine Subrelation.wf ?_ (measure fun cursor : Cursor => cursor.ahead.length).wf
  intro next cursor moved
  have shorter : next.ahead.length < cursor.ahead.length := by simp [ahead_of_next? moved]
  exact shorter

theorem wellFounded_parent? : WellFounded fun above cursor : Cursor => cursor.parent? = some above := by
  refine Subrelation.wf ?_ (measure fun cursor : Cursor => cursor.descents.length).wf
  intro above cursor moved
  exact length_parent? moved

end Cursor

namespace Site

open SyntaxNode

theorem map_site_visits (top : Site) : top.node.visits.map (Cursor.site top) = top.below := by
  rw [visits_eq, Cursor.map_site_below]
  rfl

-- One place beside another: the place of another child of the same parent.
inductive Beside : Site → Site → Prop where
  | children {parent : Site} {number number' : Nat} {node node' : SyntaxNode} (apart : number ≠ number') :
      Beside (parent.child number node) (parent.child number' node')

theorem Beside.length_eq {one other : Site} (beside : Beside one other) :
    one.ascents.length = other.ascents.length := by
  cases beside with
  | children _ => rfl

-- What lies below a place has a longer way up, and no place beside or above that place has.
theorem walk_in_preorder (top : Site) :
    let visited := top.node.visits.map (Cursor.site top)
    (WellFounded fun next cursor : Cursor => cursor.next? = some next) ∧
    (WellFounded fun above cursor : Cursor => cursor.parent? = some above) ∧
    (∀ cursor, Cursor.Reached top.node cursor →
      (cursor.site top = top ∨ Under top (cursor.site top)) ∧ (cursor.isAtStart = true ↔ cursor.site top = top)) ∧
    visited = top.below ∧
    visited.map Site.node = top.node.walk ∧
    top.node.walk = top.node.descendants ∧
    (visited.map trail).Nodup ∧
    (∀ site, site ∈ visited ↔ Under top site) ∧
    ∀ site ∈ visited, site ≠ top ∧ ¬ Beside site top ∧ ¬ Under site top := by
  intro visited
  have inPlaces : visited = top.below := map_site_visits top
  have reached (site : Site) : site ∈ visited ↔ Under top site := inPlaces ▸ mem_below_iff
  refine ⟨Cursor.wellFounded_next?, Cursor.wellFounded_parent?, ?_, inPlaces, ?_, walk_eq_descendants top.node, ?_,
    reached, ?_⟩
  · intro cursor led
    exact ⟨led.traces.site_eq_or_under, led.isAtStart_iff⟩
  · rw [walk, List.map_map]
    rfl
  · rw [inPlaces]
    exact nodup_trail_below top
  · intro site member
    have under := (reached site).mp member
    have deeper := under.length_lt
    refine ⟨?_, ?_, under.asymm⟩
    · rintro rfl
      exact Nat.lt_irrefl _ deeper
    · intro beside
      exact absurd beside.length_eq (Nat.ne_of_gt deeper)

def leaf : SyntaxNode := .mk ⟨.parameter, none, 0, 0, 0, 0⟩ []

def twins : SyntaxNode := .mk ⟨.parameters, none, 0, 0, 0, 0⟩ [leaf, leaf]

def firstTwins : Site := (root (.mk ⟨.methodDeclaration, none, 0, 0, 0, 0⟩ [twins, twins])).child 0 twins

theorem walk_in_preorder_twins :
    let visited := twins.visits.map (Cursor.site firstTwins)
    let second : Cursor := ⟨leaf, [⟨twins, 1, []⟩]⟩
    Cursor.Reached twins second ∧ Under firstTwins (second.site firstTwins) ∧
    twins.walk = [leaf, leaf] ∧ visited.map trail = [[0, 0], [1, 0]] ∧
    firstTwins.child 1 leaf ∈ visited ∧ ¬ Beside (firstTwins.child 1 leaf) firstTwins := by
  intro visited second
  obtain ⟨_, _, confined, inPlaces, _, inOrder, _, reached, outside⟩ := walk_in_preorder firstTwins
  have led : Cursor.Reached twins second := .right (.down .start rfl) rfl
  have under : Under firstTwins (second.site firstTwins) := .child rfl
  have member : firstTwins.child 1 leaf ∈ visited := (reached _).mpr under
  refine ⟨led, ?_, inOrder, ?_, member, (outside _ member).2.1⟩
  · obtain ⟨here | below, atStart⟩ := confined second led
    · exact absurd (atStart.mpr here) (by decide)
    · exact below
  · have places : visited = firstTwins.below := inPlaces
    rw [places]
    rfl

end Site

end ScriptAudit
