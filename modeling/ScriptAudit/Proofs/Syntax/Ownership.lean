import Mathlib.Algebra.Order.Group.Multiset
import Mathlib.Tactic.Abel
import ScriptAudit.Syntax.Cursor

namespace ScriptAudit.SyntaxNode

structure Placement where
  node : SyntaxNode
  above : List SyntaxNode

mutual

-- The proper descendants of a node in their places, where the first list stands above the node itself.
def placements (above : List SyntaxNode) : SyntaxNode → List Placement
  | .mk label children => placementsAmong (.mk label children :: above) children

def placementsAmong (above : List SyntaxNode) : List SyntaxNode → List Placement
  | [] => []
  | node :: rest => ⟨node, above⟩ :: (placements above node ++ placementsAmong above rest)

end

def Placement.enclosingType? (place : Placement) : Option SyntaxNode := place.above.find? isTypeDeclaration

def Placement.withType (place : Placement) : SyntaxNode × Option SyntaxNode := (place.node, place.enclosingType?)

mutual

theorem placed_eq (above : List SyntaxNode) (node : SyntaxNode) :
    placed ((node :: above).find? isTypeDeclaration) node = (placements above node).map Placement.withType := by
  cases node with
  | mk label children => rw [placed, placements, placedAmong_eq]

theorem placedAmong_eq (above nodes : List SyntaxNode) :
    placedAmong (above.find? isTypeDeclaration) nodes = (placementsAmong above nodes).map Placement.withType := by
  cases nodes with
  | nil => rfl
  | cons node rest =>
    have inner := placed_eq above node
    rw [List.find?_cons] at inner
    rw [placedAmong, placementsAmong, placedAmong_eq above rest]
    cases declared : node.isTypeDeclaration with
    | true => simp [← inner, declared, Placement.withType, Placement.enclosingType?]
    | false => simp [← inner, declared, Placement.withType, Placement.enclosingType?]

end

def housed (root : SyntaxNode) : List (SyntaxNode × SyntaxNode) :=
  (root.placements []).filterMap fun place => place.enclosingType?.map fun owner => (place.node, owner)

def isMethod (node : SyntaxNode) : Bool := node.kind == .methodDeclaration

def methodWithType (pair : SyntaxNode × Option SyntaxNode) : Option (SyntaxNode × SyntaxNode) :=
  if pair.1.isMethod then pair.2.map fun owner => (pair.1, owner) else none

def ownedPairs (nodes : List SyntaxNode) : List (SyntaxNode × SyntaxNode) :=
  (nodes.filter isTypeDeclaration).flatMap fun owner => owner.ownedMethods.map fun method => (method, owner)

def pairsOf (enclosing : Option SyntaxNode) (methods : List SyntaxNode) : List (SyntaxNode × SyntaxNode) :=
  enclosing.toList.flatMap fun owner => methods.map fun method => (method, owner)

theorem pairsOf_append (enclosing : Option SyntaxNode) (first second : List SyntaxNode) :
    pairsOf enclosing (first ++ second) = pairsOf enclosing first ++ pairsOf enclosing second := by
  cases enclosing <;> simp [pairsOf]

theorem ownedPairs_append (first second : List SyntaxNode) :
    ownedPairs (first ++ second) = ownedPairs first ++ ownedPairs second := by
  simp [ownedPairs]

theorem methodWithType_toList (enclosing : Option SyntaxNode) (node : SyntaxNode) :
    (methodWithType (node, enclosing)).toList = pairsOf enclosing (if node.isMethod then [node] else []) := by
  cases enclosing <;> cases h : node.isMethod <;> simp [methodWithType, pairsOf, h]

theorem ownedPairs_singleton (node : SyntaxNode) :
    ownedPairs [node] = if node.isTypeDeclaration then pairsOf (some node) node.ownedMethods else [] := by
  cases declared : node.isTypeDeclaration <;> simp [ownedPairs, pairsOf, declared]

-- How the parts of the statement below fall apart at the node at the front: the node itself, what lies below it, and
-- the nodes beside it.

theorem filterMap_placedAmong_cons (enclosing : Option SyntaxNode) (node : SyntaxNode) (rest : List SyntaxNode) :
    (placedAmong enclosing (node :: rest)).filterMap methodWithType =
      (methodWithType (node, enclosing)).toList ++
        ((placed (if node.isTypeDeclaration then some node else enclosing) node).filterMap methodWithType ++
          (placedAmong enclosing rest).filterMap methodWithType) := by
  rw [placedAmong, List.filterMap_cons, List.filterMap_append]
  cases methodWithType (node, enclosing) <;> rfl

theorem pairsOf_ownedAmong_cons (enclosing : Option SyntaxNode) (node : SyntaxNode) (rest : List SyntaxNode) :
    pairsOf enclosing (ownedAmong (node :: rest)) =
      (methodWithType (node, enclosing)).toList ++
        (pairsOf enclosing (if node.isTypeDeclaration then [] else node.ownedMethods) ++
          pairsOf enclosing (ownedAmong rest)) := by
  rw [methodWithType_toList, ← pairsOf_append, ← pairsOf_append, ownedAmong]
  rfl

theorem ownedPairs_forest_cons (node : SyntaxNode) (rest : List SyntaxNode) :
    ownedPairs (forest (node :: rest)) =
      ownedPairs [node] ++ (ownedPairs node.descendants ++ ownedPairs (forest rest)) := by
  rw [← ownedPairs_append, ← ownedPairs_append, forest]
  rfl

-- A method either belongs to the type around the nodes or to a type declaration among them. The cases are those of
-- the node at the front: a type declaration takes over as the enclosing type for what lies below it.
mutual

theorem placed_methods (enclosing : Option SyntaxNode) (node : SyntaxNode) :
    ((placed enclosing node).filterMap methodWithType).Perm
      (pairsOf enclosing node.ownedMethods ++ ownedPairs node.descendants) := by
  cases node with
  | mk label children =>
    rw [placed, ownedMethods, descendants]
    exact placedAmong_methods enclosing children

theorem placedAmong_methods (enclosing : Option SyntaxNode) (nodes : List SyntaxNode) :
    ((placedAmong enclosing nodes).filterMap methodWithType).Perm
      (pairsOf enclosing (ownedAmong nodes) ++ ownedPairs (forest nodes)) := by
  cases nodes with
  | nil => cases enclosing <;> exact .nil
  | cons node rest =>
    have inner := placed_methods (if node.isTypeDeclaration then some node else enclosing) node
    have outer := placedAmong_methods enclosing rest
    have empty : pairsOf enclosing [] = [] := by cases enclosing <;> rfl
    rw [filterMap_placedAmong_cons, pairsOf_ownedAmong_cons, ownedPairs_forest_cons, ownedPairs_singleton]
    refine (List.Perm.append_left _ (inner.append outer)).trans ?_
    simp only [← Multiset.coe_eq_coe, ← Multiset.coe_add]
    cases declared : node.isTypeDeclaration with
    | true =>
      simp only [empty, if_true, Multiset.coe_nil]
      abel
    | false =>
      simp only [Bool.false_eq_true, if_false, Multiset.coe_nil]
      abel

end

theorem ownedPairs_perm_housed {root : SyntaxNode} (unit : root.isTypeDeclaration = false) :
    (ownedPairs root.descendants).Perm (root.housed.filter fun pair => pair.1.isMethod) := by
  have places := placed_eq [] root
  rw [List.find?_cons, unit, List.find?_nil] at places
  have split := placed_methods none root
  rw [places] at split
  refine split.symm.trans (List.Perm.of_eq ?_)
  rw [housed, List.filterMap_map, List.filter_filterMap]
  congr 1
  funext place
  cases enclosing : place.enclosingType? <;> cases method : place.node.isMethod <;>
    simp [methodWithType, Placement.withType, Option.filter, enclosing, method]

end ScriptAudit.SyntaxNode
