import ScriptAudit.Syntax.Node

namespace ScriptAudit

-- One move down: the node that was left, the number of the child that was entered, and the siblings to the right of it.
structure Descent where
  parent : SyntaxNode
  number : Nat
  right : List SyntaxNode
deriving Repr

structure Cursor where
  node : SyntaxNode
  descents : List Descent
deriving Repr

namespace Cursor

def start (node : SyntaxNode) : Cursor := ⟨node, []⟩

-- Two nodes of a tree are the same where their places are, and the place of the start is the one without a move down.
def isAtStart (cursor : Cursor) : Bool := cursor.descents.isEmpty

def firstChild? (cursor : Cursor) : Option Cursor :=
  match cursor.node.children with
  | [] => none
  | child :: right => some ⟨child, ⟨cursor.node, 0, right⟩ :: cursor.descents⟩

def nextSibling? (cursor : Cursor) : Option Cursor :=
  match cursor.descents with
  | ⟨parent, number, next :: right⟩ :: above => some ⟨next, ⟨parent, number + 1, right⟩ :: above⟩
  | _ => none

def parent? (cursor : Cursor) : Option Cursor :=
  match cursor.descents with
  | [] => none
  | descent :: above => some ⟨descent.parent, above⟩

theorem length_parent? {cursor above : Cursor} (moved : cursor.parent? = some above) :
    above.descents.length < cursor.descents.length := by
  unfold parent? at moved
  split at moved
  · cases moved
  · next same =>
    cases moved
    simp [same]

-- The next sibling of the place, or else of the nearest node above it that has one. The way up ends at the start.
def onward? (cursor : Cursor) : Option Cursor :=
  match cursor.nextSibling? with
  | some next => some next
  | none =>
    match moved : cursor.parent? with
    | none => none
    | some above =>
      if above.isAtStart then none
      else
        have := length_parent? moved
        onward? above
termination_by cursor.descents.length

def next? (cursor : Cursor) : Option Cursor :=
  match cursor.firstChild? with
  | some child => some child
  | none => cursor.onward?

-- What a walk has still to visit behind a place: all below it, then all to the right of it and of the nodes above.

mutual

def below (descents : List Descent) : SyntaxNode → List Cursor
  | .mk label children => among (.mk label children) descents 0 children

def among (parent : SyntaxNode) (descents : List Descent) (number : Nat) : List SyntaxNode → List Cursor
  | [] => []
  | node :: rest =>
    ⟨node, ⟨parent, number, rest⟩ :: descents⟩ ::
      (below (⟨parent, number, rest⟩ :: descents) node ++ among parent descents (number + 1) rest)

end

def beside : List Descent → List Cursor
  | [] => []
  | descent :: above => among descent.parent above (descent.number + 1) descent.right ++ beside above

def ahead (cursor : Cursor) : List Cursor := below cursor.descents cursor.node ++ beside cursor.descents

theorem beside_of_nextSibling? {cursor next : Cursor} (moved : cursor.nextSibling? = some next) :
    beside cursor.descents = next :: next.ahead := by
  unfold nextSibling? at moved
  split at moved
  · next same =>
    cases moved
    simp [beside, ahead, same, among]
  · cases moved

theorem beside_of_parent? {cursor above : Cursor} (stuck : cursor.nextSibling? = none)
    (moved : cursor.parent? = some above) : beside cursor.descents = beside above.descents := by
  obtain ⟨node, descents⟩ := cursor
  match descents, stuck, moved with
  | ⟨parent, number, []⟩ :: rest, _, moved =>
    cases moved
    simp [beside, among]

theorem beside_of_onward? {cursor next : Cursor} (moved : cursor.onward? = some next) :
    beside cursor.descents = next :: next.ahead := by
  fun_induction onward? cursor with
  | case1 cursor sibling found =>
    cases moved
    exact beside_of_nextSibling? found
  | case2 cursor stuck top => cases moved
  | case3 cursor stuck above climbed back => cases moved
  | case4 cursor stuck above climbed inside shorter ih => rw [beside_of_parent? stuck climbed, ih moved]

theorem beside_of_onward?_eq_none {cursor : Cursor} (stuck : cursor.onward? = none) : beside cursor.descents = [] := by
  fun_induction onward? cursor with
  | case1 cursor sibling found => cases stuck
  | case2 cursor alone top =>
    obtain ⟨node, descents⟩ := cursor
    cases descents with
    | nil => rfl
    | cons descent above => cases top
  | case3 cursor alone above climbed back =>
    rw [beside_of_parent? alone climbed, List.isEmpty_iff.mp back]
    rfl
  | case4 cursor alone above climbed inside shorter ih => rw [beside_of_parent? alone climbed, ih stuck]

theorem ahead_of_next? {cursor next : Cursor} (moved : cursor.next? = some next) :
    cursor.ahead = next :: next.ahead := by
  obtain ⟨⟨label, children⟩, descents⟩ := cursor
  cases children with
  | nil => exact beside_of_onward? moved
  | cons child right =>
    cases moved
    simp [ahead, below, among, beside]

theorem ahead_of_next?_eq_none {cursor : Cursor} (stuck : cursor.next? = none) : cursor.ahead = [] := by
  obtain ⟨⟨label, children⟩, descents⟩ := cursor
  cases children with
  | nil => exact beside_of_onward?_eq_none stuck
  | cons child right => cases stuck

def visits (cursor : Cursor) : List Cursor :=
  match moved : cursor.next? with
  | none => [cursor]
  | some next =>
    have shorter : next.ahead.length < cursor.ahead.length := by simp [ahead_of_next? moved]
    cursor :: visits next
termination_by cursor.ahead.length

theorem visits_eq (cursor : Cursor) : cursor.visits = cursor :: cursor.ahead := by
  fun_induction visits cursor with
  | case1 cursor stuck => rw [ahead_of_next?_eq_none stuck]
  | case2 cursor next moved shorter ih => rw [ahead_of_next? moved, ih]

mutual

theorem map_node_below (descents : List Descent) (node : SyntaxNode) :
    (below descents node).map Cursor.node = node.descendants := by
  cases node with
  | mk label children => rw [below, SyntaxNode.descendants, map_node_among]

theorem map_node_among (parent : SyntaxNode) (descents : List Descent) (number : Nat) (nodes : List SyntaxNode) :
    (among parent descents number nodes).map Cursor.node = SyntaxNode.forest nodes := by
  cases nodes with
  | nil => rfl
  | cons node rest =>
    rw [among, SyntaxNode.forest, List.map_cons, List.map_append, map_node_below, map_node_among]

end

end Cursor

namespace SyntaxNode

-- Where a walk calls that starts at the node and moves to its first child.
def visits (node : SyntaxNode) : List Cursor :=
  match (Cursor.start node).firstChild? with
  | none => []
  | some child => child.visits

theorem visits_eq (node : SyntaxNode) : node.visits = Cursor.below [] node := by
  obtain ⟨label, children⟩ := node
  cases children with
  | nil => rfl
  | cons child right =>
    change Cursor.visits _ = _
    rw [Cursor.visits_eq]
    simp [Cursor.ahead, Cursor.beside, Cursor.below, Cursor.among, Cursor.start]

def walk (node : SyntaxNode) : List SyntaxNode := node.visits.map Cursor.node

theorem walk_eq_descendants (node : SyntaxNode) : node.walk = node.descendants := by
  rw [walk, visits_eq, Cursor.map_node_below]

def typeDeclarations (root : SyntaxNode) : List SyntaxNode := root.walk.filter isTypeDeclaration

end SyntaxNode

end ScriptAudit
