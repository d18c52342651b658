import Mathlib.Data.List.Nodup
import ScriptAudit.Proofs.Syntax.Ownership

namespace ScriptAudit

-- One step up: the number of a node among the children of its parent, and the parent.
structure Ascent where
  number : Nat
  parent : SyntaxNode

structure Site where
  node : SyntaxNode
  ascents : List Ascent

theorem nodup_flatMap_of_apart {α β : Type} {items : List α} {part : α → List β} (distinct : items.Nodup)
    (each : ∀ item ∈ items, (part item).Nodup)
    (apart : ∀ item ∈ items, ∀ other ∈ items, ∀ b, b ∈ part item → b ∈ part other → item = other) :
    (items.flatMap part).Nodup := by
  refine List.nodup_flatMap.mpr ⟨each, distinct.imp_of_mem ?_⟩
  intro item other member member' different b here there
  exact different (apart item member other member' b here there)

namespace Site

open SyntaxNode

def root (node : SyntaxNode) : Site := ⟨node, []⟩

def child (site : Site) (number : Nat) (node : SyntaxNode) : Site := ⟨node, ⟨number, site.node⟩ :: site.ascents⟩

def trail (site : Site) : List Nat := site.ascents.map (·.number)

mutual

def sitesBelow (ascents : List Ascent) : SyntaxNode → List Site
  | .mk label children => sitesAmong ⟨.mk label children, ascents⟩ 0 children

def sitesAmong (parent : Site) (number : Nat) : List SyntaxNode → List Site
  | [] => []
  | node :: rest =>
    parent.child number node ::
      (sitesBelow (parent.child number node).ascents node ++ sitesAmong parent (number + 1) rest)

end

-- The places below a place, each before those below it, from left to right.
def below (site : Site) : List Site := sitesBelow site.ascents site.node

theorem below_eq (site : Site) : site.below = sitesAmong site 0 site.node.children := by
  obtain ⟨⟨label, children⟩, ascents⟩ := site
  rw [below, sitesBelow]
  rfl

mutual

theorem map_node_sitesBelow (ascents : List Ascent) (node : SyntaxNode) :
    (sitesBelow ascents node).map Site.node = node.descendants := by
  cases node with
  | mk label children => rw [sitesBelow, descendants, map_node_sitesAmong]

theorem map_node_sitesAmong (parent : Site) (number : Nat) (nodes : List SyntaxNode) :
    (sitesAmong parent number nodes).map Site.node = forest nodes := by
  cases nodes with
  | nil => rfl
  | cons node rest =>
    rw [sitesAmong, forest, List.map_cons, List.map_append, map_node_sitesBelow, map_node_sitesAmong]
    rfl

end

theorem map_node_below (site : Site) : site.below.map Site.node = site.node.descendants :=
  map_node_sitesBelow site.ascents site.node

inductive Under (top : Site) : Site → Prop where
  | child {number : Nat} {node : SyntaxNode} (held : top.node.children[number]? = some node) :
      Under top (top.child number node)
  | deeper {site : Site} {number : Nat} {node : SyntaxNode} (under : Under top site)
      (held : site.node.children[number]? = some node) : Under top (site.child number node)

theorem mem_sitesAmong {parent site : Site} {nodes : List SyntaxNode} {first : Nat} :
    site ∈ sitesAmong parent first nodes ↔ ∃ offset node, nodes[offset]? = some node ∧
      (site = parent.child (first + offset) node ∨ site ∈ (parent.child (first + offset) node).below) := by
  induction nodes generalizing first with
  | nil => simp [sitesAmong]
  | cons node rest ih =>
    rw [sitesAmong, List.mem_cons, List.mem_append, ih]
    constructor
    · rintro (here | here | ⟨offset, other, held, place⟩)
      · exact ⟨0, node, rfl, .inl here⟩
      · exact ⟨0, node, rfl, .inr here⟩
      · refine ⟨offset + 1, other, held, ?_⟩
        rwa [Nat.add_right_comm, Nat.add_assoc] at place
    · rintro ⟨offset, other, held, place⟩
      cases offset with
      | zero =>
        cases held
        exact place.imp id .inl
      | succ offset =>
        refine .inr (.inr ⟨offset, other, held, ?_⟩)
        rwa [Nat.add_right_comm, Nat.add_assoc]

theorem mem_below {top site : Site} : site ∈ top.below ↔ ∃ number node, top.node.children[number]? = some node ∧
    (site = top.child number node ∨ site ∈ (top.child number node).below) := by
  rw [below_eq, mem_sitesAmong]
  simp only [Nat.zero_add]

theorem Under.trans {top middle site : Site} (above : Under top middle) (under : Under middle site) :
    Under top site := by
  induction under with
  | child held => exact above.deeper held
  | deeper _ held ih => exact ih.deeper held

mutual

theorem below_subset_sitesBelow {site : Site} (ascents : List Ascent) (node : SyntaxNode)
    (member : site ∈ sitesBelow ascents node) : site.below ⊆ sitesBelow ascents node := by
  cases node with
  | mk label children =>
    rw [sitesBelow] at member ⊢
    exact below_subset_sitesAmong _ _ children member

theorem below_subset_sitesAmong {site : Site} (parent : Site) (number : Nat) (nodes : List SyntaxNode)
    (member : site ∈ sitesAmong parent number nodes) : site.below ⊆ sitesAmong parent number nodes := by
  cases nodes with
  | nil => cases member
  | cons node rest =>
    rw [sitesAmong, List.mem_cons, List.mem_append] at member
    rw [sitesAmong]
    intro deeper under
    refine List.mem_cons_of_mem _ (List.mem_append.mpr ?_)
    rcases member with rfl | inside | beside
    · exact .inl under
    · exact .inl (below_subset_sitesBelow _ node inside under)
    · exact .inr (below_subset_sitesAmong parent _ rest beside under)

end

mutual

theorem under_of_mem_sitesBelow {site : Site} (ascents : List Ascent) (node : SyntaxNode)
    (member : site ∈ sitesBelow ascents node) : Under ⟨node, ascents⟩ site := by
  cases node with
  | mk label children =>
    rw [sitesBelow] at member
    exact under_of_mem_sitesAmong _ 0 children rfl member

theorem under_of_mem_sitesAmong {site : Site} (parent : Site) (number : Nat) (nodes : List SyntaxNode)
    (left : parent.node.children.drop number = nodes) (member : site ∈ sitesAmong parent number nodes) :
    Under parent site := by
  cases nodes with
  | nil => cases member
  | cons node rest =>
    have held : parent.node.children[number]? = some node := by
      rw [← Nat.add_zero number, ← List.getElem?_drop, left]
      rfl
    have later : parent.node.children.drop (number + 1) = rest := by
      rw [← List.drop_drop, left]
      rfl
    rw [sitesAmong, List.mem_cons, List.mem_append] at member
    rcases member with rfl | inside | beside
    · exact .child held
    · exact (Under.child held).trans (under_of_mem_sitesBelow _ node inside)
    · exact under_of_mem_sitesAmong parent (number + 1) rest later beside

end

theorem mem_below_iff {top site : Site} : site ∈ top.below ↔ Under top site := by
  constructor
  · intro member
    exact under_of_mem_sitesBelow top.ascents top.node member
  · intro under
    induction under with
    | child held => exact mem_below.mpr ⟨_, _, held, .inl rfl⟩
    | deeper _ held ih => exact below_subset_sitesBelow _ _ ih (mem_below.mpr ⟨_, _, held, .inl rfl⟩)

theorem Under.mem_descendants {top site : Site} (under : Under top site) : site.node ∈ top.node.descendants := by
  rw [← map_node_below]
  exact List.mem_map_of_mem (mem_below_iff.mpr under)

theorem child_inj {one other : Site} {number number' : Nat} {node node' : SyntaxNode}
    (same : one.child number node = other.child number' node') : one = other ∧ number = number' ∧ node = node' := by
  obtain ⟨_, _⟩ := one
  obtain ⟨_, _⟩ := other
  cases same
  exact ⟨rfl, rfl, rfl⟩

theorem under_child_iff {top site : Site} {number : Nat} {node : SyntaxNode} :
    Under top (site.child number node) ↔ site.node.children[number]? = some node ∧ (top = site ∨ Under top site) := by
  constructor
  · intro under
    generalize same : site.child number node = place at under
    cases under with
    | child held =>
      obtain ⟨rfl, rfl, rfl⟩ := child_inj same
      exact ⟨held, .inl rfl⟩
    | deeper under held =>
      obtain ⟨rfl, rfl, rfl⟩ := child_inj same
      exact ⟨held, .inr under⟩
  · rintro ⟨held, rfl | under⟩
    · exact .child held
    · exact .deeper under held

theorem not_under_root {top : Site} {node : SyntaxNode} : ¬ Under top (root node) := nofun

theorem Under.trail_suffix {top site : Site} (under : Under top site) : top.trail <:+ site.trail := by
  induction under with
  | child _ => exact List.suffix_cons _ _
  | deeper _ _ ih => exact ih.trans (List.suffix_cons _ _)

theorem Under.length_lt {top site : Site} (under : Under top site) : top.ascents.length < site.ascents.length := by
  induction under with
  | child _ => exact Nat.lt_succ_self _
  | deeper _ _ ih => exact Nat.lt_succ_of_lt ih

theorem Under.asymm {top site : Site} (under : Under top site) : ¬ Under site top := by
  intro back
  have down := under.length_lt
  have up := back.length_lt
  omega

theorem Under.compare {one other site : Site} (under : Under one site) (beside : Under other site) :
    one = other ∨ Under one other ∨ Under other one := by
  induction under with
  | child held =>
    rcases (under_child_iff.mp beside).2 with same | above
    · exact .inl same.symm
    · exact .inr (.inr above)
  | deeper above held ih =>
    rcases (under_child_iff.mp beside).2 with rfl | further
    · exact .inr (.inl above)
    · exact ih further

theorem length_trail (site : Site) : site.trail.length = site.ascents.length := List.length_map _

theorem child_trail_suffix_of_mem {top site : Site} {number : Nat} {node : SyntaxNode}
    (place : site = top.child number node ∨ site ∈ (top.child number node).below) :
    number :: top.trail <:+ site.trail := by
  rcases place with rfl | under
  · exact List.suffix_refl _
  · exact (mem_below_iff.mp under).trail_suffix

mutual

theorem nodup_trail_sitesBelow (ascents : List Ascent) (node : SyntaxNode) :
    ((sitesBelow ascents node).map trail).Nodup := by
  cases node with
  | mk label children =>
    rw [sitesBelow]
    exact nodup_trail_sitesAmong _ 0 children

-- The places at and below a child end their way in the number of this child, and later children have greater numbers.
theorem nodup_trail_sitesAmong (parent : Site) (number : Nat) (nodes : List SyntaxNode) :
    ((sitesAmong parent number nodes).map trail).Nodup := by
  cases nodes with
  | nil => exact List.nodup_nil
  | cons node rest =>
    have inside := nodup_trail_sitesBelow (parent.child number node).ascents node
    have beside := nodup_trail_sitesAmong parent (number + 1) rest
    have longer (site : Site) (under : site ∈ sitesBelow (parent.child number node).ascents node) :
        Under (parent.child number node) site := mem_below_iff.mp under
    have elsewhere (site : Site) (later : site ∈ sitesAmong parent (number + 1) rest) :
        ¬ number :: parent.trail <:+ site.trail := by
      obtain ⟨offset, other, _, place⟩ := mem_sitesAmong.mp later
      intro here
      have there := child_trail_suffix_of_mem place
      have same := (List.suffix_of_suffix_length_le here there (Nat.le_refl _)).eq_of_length rfl
      rw [List.cons.injEq] at same
      omega
    rw [sitesAmong, List.map_cons, List.map_append, List.nodup_cons, List.nodup_append]
    refine ⟨?_, inside, beside, ?_⟩
    · intro again
      rcases List.mem_append.mp again with under | later
      · obtain ⟨site, member, same⟩ := List.mem_map.mp under
        have further := (longer site member).length_lt
        rw [← length_trail, ← length_trail, same] at further
        exact Nat.lt_irrefl _ further
      · obtain ⟨site, member, same⟩ := List.mem_map.mp later
        exact elsewhere site member (same ▸ List.suffix_refl _)
    · rintro trail under _ later rfl
      obtain ⟨site, member, same⟩ := List.mem_map.mp under
      obtain ⟨other, member', same'⟩ := List.mem_map.mp later
      exact elsewhere other member' (same' ▸ same ▸ (longer site member).trail_suffix)

end

theorem nodup_trail_below (site : Site) : (site.below.map trail).Nodup :=
  nodup_trail_sitesBelow site.ascents site.node

theorem nodup_below (site : Site) : site.below.Nodup := (nodup_trail_below site).of_map

theorem eq_of_trail_eq {top one other : Site} (under : Under top one) (under' : Under top other)
    (same : one.trail = other.trail) : one = other :=
  List.inj_on_of_nodup_map (nodup_trail_below top) (mem_below_iff.mpr under) (mem_below_iff.mpr under') same

def typeAmong? : List Ascent → Option Site
  | [] => none
  | step :: above =>
    if step.parent.isTypeDeclaration then some ⟨step.parent, above⟩ else typeAmong? above

def enclosingType? (site : Site) : Option Site := typeAmong? site.ascents

theorem enclosingType?_child (site : Site) (number : Nat) (node : SyntaxNode) :
    (site.child number node).enclosingType? =
      if site.node.isTypeDeclaration then some site else site.enclosingType? := rfl

-- A type declaration above a place that has every other type declaration above the place above it too.
structure IsNearestType (site type : Site) : Prop where
  above : Under type site
  declares : type.node.isTypeDeclaration = true
  nearest : ∀ other, Under other site → other.node.isTypeDeclaration = true → other = type ∨ Under other type

theorem IsNearestType.unique {site one other : Site} (near : IsNearestType site one)
    (near' : IsNearestType site other) : one = other := by
  rcases near.nearest other near'.above near'.declares with same | under
  · exact same.symm
  · rcases near'.nearest one near.above near.declares with same | back
    · exact same
    · exact absurd back under.asymm

theorem isNearestType_child_of_declares {site : Site} {number : Nat} {node : SyntaxNode}
    (held : site.node.children[number]? = some node) (declares : site.node.isTypeDeclaration = true) :
    IsNearestType (site.child number node) site := by
  refine ⟨.child held, declares, ?_⟩
  intro other under _
  exact (under_child_iff.mp under).2

theorem isNearestType_child {site type : Site} {number : Nat} {node : SyntaxNode}
    (held : site.node.children[number]? = some node) (plain : ¬ site.node.isTypeDeclaration = true) :
    IsNearestType (site.child number node) type ↔ IsNearestType site type := by
  have passes (other : Site) (declares : other.node.isTypeDeclaration = true) :
      Under other (site.child number node) ↔ Under other site := by
    rw [under_child_iff]
    constructor
    · rintro ⟨_, rfl | under⟩
      · exact absurd declares plain
      · exact under
    · intro under
      exact ⟨held, .inr under⟩
  constructor
  · rintro ⟨above, declares, nearest⟩
    refine ⟨(passes type declares).mp above, declares, ?_⟩
    intro other under declared
    exact nearest other ((passes other declared).mpr under) declared
  · rintro ⟨above, declares, nearest⟩
    refine ⟨(passes type declares).mpr above, declares, ?_⟩
    intro other under declared
    exact nearest other ((passes other declared).mp under) declared

theorem enclosingType?_child_eq_some_iff {site type : Site} {number : Nat} {node : SyntaxNode}
    (held : site.node.children[number]? = some node)
    (here : site.enclosingType? = some type ↔ IsNearestType site type) :
    (site.child number node).enclosingType? = some type ↔ IsNearestType (site.child number node) type := by
  rw [enclosingType?_child]
  by_cases declares : site.node.isTypeDeclaration = true
  · have near := isNearestType_child_of_declares held declares
    rw [if_pos declares, Option.some.injEq]
    constructor
    · rintro rfl
      exact near
    · intro near'
      exact near.unique near'
  · rw [if_neg declares, here, isNearestType_child held declares]

theorem enclosingType?_eq_some_iff {node : SyntaxNode} {site type : Site} (under : Under (root node) site) :
    site.enclosingType? = some type ↔ IsNearestType site type := by
  induction under with
  | child held =>
    refine enclosingType?_child_eq_some_iff held ⟨?_, ?_⟩
    · intro found
      cases found
    · intro near
      exact absurd near.above not_under_root
  | deeper _ held ih => exact enclosingType?_child_eq_some_iff held ih

-- Below a type declaration, the way up does not lead past it.
theorem exists_enclosingType? {type site : Site} (under : Under type site)
    (declares : type.node.isTypeDeclaration = true) :
    ∃ nearest ∈ site.enclosingType?, nearest = type ∨ Under type nearest := by
  induction under with
  | child held => exact ⟨type, by rw [enclosingType?_child, if_pos declares, Option.mem_some], .inl rfl⟩
  | @deeper site _ _ above held ih =>
    rw [enclosingType?_child]
    by_cases here : site.node.isTypeDeclaration = true
    · exact ⟨site, by rw [if_pos here, Option.mem_some], .inr above⟩
    · rwa [if_neg here]

def ownsMethod (type site : Site) : Bool :=
  site.node.isMethod && site.enclosingType?.any fun nearest => nearest.trail == type.trail

def ownedMethodSites (type : Site) : List Site := type.below.filter type.ownsMethod

def typeFrom? (site : Site) : Option Site :=
  if site.node.isTypeDeclaration then some site else site.enclosingType?

theorem length_le_of_typeAmong? {type : Site} (ascents : List Ascent) (found : typeAmong? ascents = some type) :
    type.ascents.length < ascents.length := by
  induction ascents with
  | nil => cases found
  | cons step above ih =>
    rw [typeAmong?] at found
    split at found
    · cases found
      exact Nat.lt_succ_self _
    · exact Nat.lt_succ_of_lt (ih found)

theorem length_le_of_typeFrom? {site type : Site} (found : site.typeFrom? = some type) :
    type.ascents.length ≤ site.ascents.length := by
  rw [typeFrom?] at found
  split at found
  · cases found
    exact Nat.le_refl _
  · exact Nat.le_of_lt (length_le_of_typeAmong? _ found)

-- A type declaration keeps what lies below it from the types further up.
theorem filter_ownsMethod_below {site type : Site} (declares : site.node.isTypeDeclaration = true)
    (shorter : type.ascents.length < site.ascents.length) : site.below.filter type.ownsMethod = [] := by
  refine List.filter_eq_nil_iff.mpr fun place member owned => ?_
  obtain ⟨nearest, found, reached⟩ := exists_enclosingType? (mem_below_iff.mp member) declares
  rw [ownsMethod, Option.mem_def.mp found, Bool.and_eq_true] at owned
  have same : nearest.trail = type.trail := eq_of_beq owned.2
  have long : site.ascents.length ≤ nearest.ascents.length := by
    rcases reached with rfl | under
    · exact Nat.le_refl _
    · exact Nat.le_of_lt under.length_lt
  rw [← length_trail nearest, same, length_trail] at long
  omega

mutual

theorem map_node_filter_below {type : Site} (site : Site) (node : SyntaxNode) (here : site.node = node)
    (around : site.typeFrom? = some type) :
    (site.below.filter type.ownsMethod).map Site.node = node.ownedMethods := by
  cases node with
  | mk label children =>
    rw [below_eq, ownedMethods, here]
    exact map_node_filter_sitesAmong site 0 children around

theorem map_node_filter_sitesAmong {type : Site} (parent : Site) (number : Nat) (nodes : List SyntaxNode)
    (around : parent.typeFrom? = some type) :
    ((sitesAmong parent number nodes).filter type.ownsMethod).map Site.node = ownedAmong nodes := by
  cases nodes with
  | nil => rfl
  | cons node rest =>
    have beside := map_node_filter_sitesAmong parent (number + 1) rest around
    have enclosing : (parent.child number node).enclosingType? = some type := around
    have here : type.ownsMethod (parent.child number node) = node.isMethod := by
      rw [ownsMethod, enclosing]
      simp [child]
    have inside : ((parent.child number node).below.filter type.ownsMethod).map Site.node =
        if node.isTypeDeclaration then [] else node.ownedMethods := by
      by_cases declares : node.isTypeDeclaration = true
      · have shorter := Nat.lt_succ_of_le (length_le_of_typeFrom? around)
        rw [if_pos declares, filter_ownsMethod_below declares shorter]
        rfl
      · have through : (parent.child number node).typeFrom? = some type := (if_neg declares).trans enclosing
        rw [if_neg declares, map_node_filter_below _ node rfl through]
    rw [sitesAmong, ownedAmong, List.filter_cons, here, List.filter_append, ← inside, ← beside]
    have method : (node.kind == .methodDeclaration) = node.isMethod := rfl
    rw [method]
    cases node.isMethod with
    | true => exact congrArg (node :: ·) (List.map_append ..)
    | false => exact List.map_append ..

end

theorem map_node_ownedMethodSites {type : Site} (declares : type.node.isTypeDeclaration = true) :
    type.ownedMethodSites.map Site.node = type.node.ownedMethods :=
  map_node_filter_below type type.node rfl (if_pos declares)

theorem Under.eq_of_length_eq {one other site : Site} (under : Under one site) (under' : Under other site)
    (same : one.ascents.length = other.ascents.length) : one = other := by
  rcases under.compare under' with equal | down | up
  · exact equal
  · exact absurd same (Nat.ne_of_lt down.length_lt)
  · exact absurd same.symm (Nat.ne_of_lt up.length_lt)

theorem ownsMethod_iff {node : SyntaxNode} {type site : Site} (placed : Under (root node) site)
    (above : Under type site) :
    type.ownsMethod site = true ↔ site.node.isMethod = true ∧ IsNearestType site type := by
  rw [ownsMethod, Bool.and_eq_true, Option.any_eq_true, and_congr_right_iff]
  intro _
  constructor
  · rintro ⟨nearest, found, same⟩
    have near := (enclosingType?_eq_some_iff placed).mp found
    have level : nearest.ascents.length = type.ascents.length := by
      rw [← length_trail, ← length_trail, eq_of_beq same]
    rwa [near.above.eq_of_length_eq above level] at near
  · intro near
    exact ⟨type, (enclosingType?_eq_some_iff placed).mpr near, beq_self_eq_true _⟩

def typeSites (node : SyntaxNode) : List Site := (root node).below.filter fun site => site.node.isTypeDeclaration

theorem map_node_typeSites (node : SyntaxNode) : (typeSites node).map Site.node = node.typeDeclarations := by
  have below : (root node).below.map Site.node = node.descendants := map_node_below (root node)
  rw [typeDeclarations, walk_eq_descendants, typeSites, ← below, List.filter_map]
  rfl

theorem mem_typeSites {node : SyntaxNode} {type : Site} :
    type ∈ typeSites node ↔ Under (root node) type ∧ type.node.isTypeDeclaration = true := by
  rw [typeSites, List.mem_filter, mem_below_iff]

theorem mem_ownedMethodSites {node : SyntaxNode} (plain : node.isTypeDeclaration = false) {type site : Site} :
    type ∈ typeSites node ∧ site ∈ type.ownedMethodSites ↔
      Under (root node) site ∧ site.node.isMethod = true ∧ IsNearestType site type := by
  rw [mem_typeSites, ownedMethodSites, List.mem_filter, mem_below_iff]
  constructor
  · rintro ⟨⟨placed, _⟩, above, owned⟩
    have under := placed.trans above
    exact ⟨under, (ownsMethod_iff under above).mp owned⟩
  · rintro ⟨under, method, near⟩
    refine ⟨⟨?_, near.declares⟩, near.above, (ownsMethod_iff under near.above).mpr ⟨method, near⟩⟩
    rcases under.compare near.above with rfl | placed | above
    · exact absurd near.declares (by simp [root, plain])
    · exact placed
    · exact absurd above not_under_root

theorem exists_isNearestType {node : SyntaxNode} {site type : Site} (placed : Under (root node) site)
    (above : Under type site) (declares : type.node.isTypeDeclaration = true) :
    ∃ nearest, IsNearestType site nearest := by
  obtain ⟨nearest, found, _⟩ := exists_enclosingType? above declares
  exact ⟨nearest, (enclosingType?_eq_some_iff placed).mp found⟩

theorem nodup_ownedMethodSites {node : SyntaxNode} (plain : node.isTypeDeclaration = false) :
    (((typeSites node).flatMap ownedMethodSites).map trail).Nodup := by
  have once : ((typeSites node).flatMap ownedMethodSites).Nodup := by
    refine nodup_flatMap_of_apart ((nodup_below _).filter _) ?_ ?_
    · intro type _
      exact (nodup_below type).filter _
    · intro one member other member' site owned owned'
      have near := ((mem_ownedMethodSites plain).mp ⟨member, owned⟩).2.2
      have near' := ((mem_ownedMethodSites plain).mp ⟨member', owned'⟩).2.2
      exact near.unique near'
  refine once.map_on ?_
  intro one member other member' same
  obtain ⟨type, listed, owned⟩ := List.mem_flatMap.mp member
  obtain ⟨type', listed', owned'⟩ := List.mem_flatMap.mp member'
  have under := ((mem_ownedMethodSites plain).mp ⟨listed, owned⟩).1
  have under' := ((mem_ownedMethodSites plain).mp ⟨listed', owned'⟩).1
  exact eq_of_trail_eq under under' same

end Site

end ScriptAudit
