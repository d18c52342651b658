import ScriptAudit.Proofs.Syntax.Chain
import ScriptAudit.Proofs.Syntax.Position
import ScriptAudit.Proofs.Syntax.Site

namespace ScriptAudit

open Text

def Text.Position.UpTo (p q : Position) : Prop := p = q ∨ p.Before q

namespace SyntaxNode

-- The children of a node lie in its bytes, one behind the other.
structure HoldsChildren (node : SyntaxNode) : Prop where
  within : ∀ child ∈ node.children, node.label.start ≤ child.label.start ∧ child.label.stop ≤ node.label.stop
  apart : node.children.Pairwise fun child next => child.label.stop ≤ next.label.start

instance (node : SyntaxNode) : Decidable node.HoldsChildren :=
  decidable_of_iff
    ((∀ child ∈ node.children, node.label.start ≤ child.label.start ∧ child.label.stop ≤ node.label.stop) ∧
      node.children.Pairwise fun child next => child.label.stop ≤ next.label.start)
    ⟨fun held => ⟨held.1, held.2⟩, fun held => ⟨held.within, held.apart⟩⟩

def IsNested (root : SyntaxNode) : Prop := ∀ node ∈ root :: root.descendants, node.HoldsChildren

instance (root : SyntaxNode) : Decidable root.IsNested := inferInstanceAs (Decidable (∀ _ ∈ _, _))

theorem IsNested.of_mem {root node : SyntaxNode} (nested : root.IsNested) (below : node ∈ root.descendants) :
    node.IsNested := by
  intro part member
  have inside := (infix_of_mem_descendants root below).subset member
  exact nested part (List.mem_cons_of_mem _ inside)

theorem mem_descendants_of_mem_children {node child : SyntaxNode} (member : child ∈ node.children) :
    child ∈ node.descendants := by
  obtain ⟨number, held⟩ := List.mem_iff_getElem?.mp member
  have reached : Site.Under (.root node) _ := .child held
  exact reached.mem_descendants

variable {source : List Char} {one other : SyntaxNode}

theorem Fits.isBoundary (fits : one.Fits source) : IsBoundary source one.label.start := by
  obtain ⟨before, after, same, start, _⟩ := fits.behind
  exact ⟨before, after, same, start⟩

theorem Fits.position_upTo (fits : one.Fits source) (fits' : other.Fits source) (small : byteSize source < UInt32.size)
    (ordered : one.label.start ≤ other.label.start) : (one.position source).UpTo (other.position source) := by
  rw [fits.position_eq, fits'.position_eq]
  rcases Nat.eq_or_lt_of_le ordered with same | less
  · exact .inl (congrArg _ same)
  · exact .inr (LineIndex.position_before small fits.isBoundary fits'.isBoundary less)

end SyntaxNode

namespace Site

open SyntaxNode

structure Covers (outer inner : Site) : Prop where
  under : Under outer inner
  start : outer.node.label.start ≤ inner.node.label.start
  stop : inner.node.label.stop ≤ outer.node.label.stop

def Leads (earlier later : Site) : Prop :=
  earlier.Covers later ∨ earlier.node.label.stop ≤ later.node.label.start

theorem Under.covers {top site : Site} (under : Under top site) (nested : top.node.IsNested) : top.Covers site := by
  induction under with
  | child held =>
    obtain ⟨start, stop⟩ := (nested _ List.mem_cons_self).within _ (List.mem_of_getElem? held)
    exact ⟨.child held, start, stop⟩
  | deeper above held ih =>
    have holds := nested _ (List.mem_cons_of_mem _ above.mem_descendants)
    obtain ⟨start, stop⟩ := holds.within _ (List.mem_of_getElem? held)
    exact ⟨above.deeper held, Nat.le_trans ih.start start, Nat.le_trans stop ih.stop⟩

theorem exists_around_of_mem_sitesAmong {parent site : Site} {nodes : List SyntaxNode} {first : Nat}
    (nested : ∀ node ∈ nodes, node.IsNested) (member : site ∈ sitesAmong parent first nodes) :
    ∃ node ∈ nodes, node.label.start ≤ site.node.label.start ∧ site.node.label.stop ≤ node.label.stop := by
  obtain ⟨offset, node, held, place⟩ := mem_sitesAmong.mp member
  have listed := List.mem_of_getElem? held
  refine ⟨node, listed, ?_⟩
  rcases place with rfl | below
  · exact ⟨Nat.le_refl _, Nat.le_refl _⟩
  · have covers := (mem_below_iff.mp below).covers (nested node listed)
    exact ⟨covers.start, covers.stop⟩

mutual

theorem leads_sitesBelow (ascents : List Ascent) (node : SyntaxNode) (nested : node.IsNested) :
    (sitesBelow ascents node).Pairwise Leads := by
  cases node with
  | mk label children =>
    have held := nested _ List.mem_cons_self
    rw [sitesBelow]
    refine leads_sitesAmong _ 0 children (fun child member => ?_) held.apart
    exact nested.of_mem (mem_descendants_of_mem_children member)

-- What lies at or below a child ends where the child ends at the latest, and the later children start behind it.
theorem leads_sitesAmong (parent : Site) (number : Nat) (nodes : List SyntaxNode)
    (nested : ∀ node ∈ nodes, node.IsNested)
    (apart : nodes.Pairwise fun node next => node.label.stop ≤ next.label.start) :
    (sitesAmong parent number nodes).Pairwise Leads := by
  cases nodes with
  | nil => exact .nil
  | cons node rest =>
    obtain ⟨here, others⟩ := List.forall_mem_cons.mp nested
    obtain ⟨behind, apart⟩ := List.pairwise_cons.mp apart
    have covers (site : Site) (inside : site ∈ sitesBelow (parent.child number node).ascents node) :
        (parent.child number node).Covers site := (mem_below_iff.mp inside).covers here
    have past (site : Site) (later : site ∈ sitesAmong parent (number + 1) rest) :
        node.label.stop ≤ site.node.label.start := by
      obtain ⟨next, listed, start, _⟩ := exists_around_of_mem_sitesAmong others later
      exact Nat.le_trans (behind next listed) start
    rw [sitesAmong, List.pairwise_cons, List.pairwise_append]
    refine ⟨?_, leads_sitesBelow _ node here, leads_sitesAmong parent (number + 1) rest others apart, ?_⟩
    · intro site member
      rcases List.mem_append.mp member with inside | later
      · exact .inl (covers site inside)
      · exact .inr (past site later)
    · intro site inside other later
      exact .inr (Nat.le_trans (covers site inside).stop (past other later))

end

theorem leads_below {top : Site} (nested : top.node.IsNested) : top.below.Pairwise Leads :=
  leads_sitesBelow top.ascents top.node nested

theorem Leads.start_le {earlier later : Site} (leads : earlier.Leads later)
    (ordered : earlier.node.label.start ≤ earlier.node.label.stop) :
    earlier.node.label.start ≤ later.node.label.start := by
  rcases leads with covers | past
  · exact covers.start
  · exact Nat.le_trans ordered past

end Site

end ScriptAudit
