import Mathlib.Data.Finset.Card
import ScriptAudit.Proofs.TypeName
import ScriptAudit.TypeIndex

namespace ScriptAudit

namespace TypeHierarchy

variable {hierarchy : TypeHierarchy} {bases visited after passed : List String} {depth : Nat}

-- A climb starts at one of the given bases, goes on at one of the bases known for its simple name, and ends at a base
-- that makes a component by itself. The last list holds the bases passed on the way, without the one at the end.
inductive Climb (hierarchy : TypeHierarchy) : List String → List String → Prop where
  | root {base : String} {bases : List String} (listed : base ∈ bases)
      (component : TypeName.isComponentRoot base = true) : Climb hierarchy bases []
  | up {base : String} {bases above passed : List String} (listed : base ∈ bases)
      (found : hierarchy.baseTypes (TypeName.normalize base) = some above) (rest : Climb hierarchy above passed) :
      Climb hierarchy bases (base :: passed)

theorem Climb.mono {more : List String} (climb : hierarchy.Climb bases passed) (kept : bases ⊆ more) :
    hierarchy.Climb more passed := by
  cases climb with
  | root listed component => exact .root (kept listed) component
  | up listed found rest => exact .up (kept listed) found rest

def Barren (after bases : List String) : Prop :=
  ∀ base ∈ bases, TypeName.isComponentRoot base = false ∧ TypeName.normalize base ∈ after

theorem Barren.mono {more : List String} (barren : Barren after bases) (kept : after ⊆ more) :
    Barren more bases :=
  fun base listed => ⟨(barren base listed).1, kept (barren base listed).2⟩

-- What a search without success leaves behind: every name that it added leads to barren bases only. Names that were
-- visited before are not accounted for, and the names that the search started with never are.
structure Explored (hierarchy : TypeHierarchy) (bases visited after : List String) : Prop where
  kept : visited ⊆ after
  listed : Barren after bases
  closed : ∀ name ∈ after, name ∉ visited → ∀ above, hierarchy.baseTypes name = some above → Barren after above

theorem Explored.nil : hierarchy.Explored [] visited visited :=
  ⟨List.Subset.refl _, by simp [Barren], fun _ new old => absurd new old⟩

theorem Explored.cons_visited {base : String} {rest : List String} (plain : TypeName.isComponentRoot base = false)
    (seen : TypeName.normalize base ∈ visited) (explored : hierarchy.Explored rest visited after) :
    hierarchy.Explored (base :: rest) visited after := by
  refine ⟨explored.kept, ?_, explored.closed⟩
  intro other listed
  rcases List.mem_cons.mp listed with rfl | later
  · exact ⟨plain, explored.kept seen⟩
  · exact explored.listed other later

theorem Explored.cons_unknown {base : String} {rest : List String} (plain : TypeName.isComponentRoot base = false)
    (unknown : hierarchy.baseTypes (TypeName.normalize base) = none)
    (explored : hierarchy.Explored rest (TypeName.normalize base :: visited) after) :
    hierarchy.Explored (base :: rest) visited after := by
  have kept := explored.kept
  refine ⟨fun name old => kept (List.mem_cons_of_mem _ old), ?_, ?_⟩
  · intro other listed
    rcases List.mem_cons.mp listed with rfl | later
    · exact ⟨plain, kept List.mem_cons_self⟩
    · exact explored.listed other later
  · intro name new fresh above found
    by_cases same : name = TypeName.normalize base
    · rw [same, unknown] at found
      cases found
    · exact explored.closed name new (by simp [same, fresh]) above found

theorem Explored.cons_known {base : String} {rest above middle : List String}
    (plain : TypeName.isComponentRoot base = false) (known : hierarchy.baseTypes (TypeName.normalize base) = some above)
    (inner : hierarchy.Explored above (TypeName.normalize base :: visited) middle)
    (outer : hierarchy.Explored rest middle after) : hierarchy.Explored (base :: rest) visited after := by
  refine ⟨fun name old => outer.kept (inner.kept (List.mem_cons_of_mem _ old)), ?_, ?_⟩
  · intro other listed
    rcases List.mem_cons.mp listed with rfl | later
    · exact ⟨plain, outer.kept (inner.kept List.mem_cons_self)⟩
    · exact outer.listed other later
  · intro name new fresh next found
    by_cases early : name ∈ middle
    · by_cases same : name = TypeName.normalize base
      · rw [same, known] at found
        cases found
        exact inner.listed.mono outer.kept
      · exact (inner.closed name early (by simp [same, fresh]) next found).mono outer.kept
    · exact outer.closed name new early next found

theorem Explored.no_climb (explored : hierarchy.Explored bases visited after)
    (climb : hierarchy.Climb bases passed) : ¬ ∀ base ∈ passed, TypeName.normalize base ∉ visited := by
  have barren := explored.listed
  induction climb with
  | root listed component =>
    rw [(barren _ listed).1] at component
    cases component
  | @up base bases above passed listed found rest ih =>
    intro avoids
    have fresh := avoids base List.mem_cons_self
    have higher := explored.closed _ (barren base listed).2 fresh above found
    exact ih ⟨explored.kept, higher, explored.closed⟩ higher fun other member =>
      avoids other (List.mem_cons_of_mem _ member)

def unseen (hierarchy : TypeHierarchy) (visited : List String) : Finset String :=
  hierarchy.names.toFinset \ visited.toFinset

theorem unseen_antitone (hierarchy : TypeHierarchy) {more : List String} (kept : visited ⊆ more) :
    hierarchy.unseen more ⊆ hierarchy.unseen visited := by
  refine Finset.sdiff_subset_sdiff (Finset.Subset.refl _) ?_
  intro name old
  simpa using kept (by simpa using old)

-- Simple names are their own simple names, so a known one is among the names of the hierarchy.
theorem unseen_cons_lt {base : String} {above : List String}
    (found : hierarchy.baseTypes (TypeName.normalize base) = some above) (fresh : TypeName.normalize base ∉ visited) :
    (hierarchy.unseen (TypeName.normalize base :: visited)).card < (hierarchy.unseen visited).card := by
  have member : TypeName.normalize base ∈ hierarchy.names :=
    hierarchy.known _ (TypeName.normalize_normalize base) (by simp [found])
  have fewer := unseen_antitone hierarchy (List.subset_cons_self (TypeName.normalize base) visited)
  refine Finset.card_lt_card ((Finset.ssubset_iff_of_subset fewer).mpr ?_)
  exact ⟨TypeName.normalize base, by simp [unseen, member, fresh], by simp [unseen]⟩

theorem unseen_card_le_depthBound (hierarchy : TypeHierarchy) (visited : List String) :
    (hierarchy.unseen visited).card ≤ hierarchy.depthBound := by
  have fewer := Finset.card_le_card (Finset.sdiff_subset (s := hierarchy.names.toFinset) (t := visited.toFinset))
  have bound := hierarchy.names.toFinset_card_le
  simp only [depthBound, unseen]
  omega

theorem mem_search_of_mem (hierarchy : TypeHierarchy) (depth : Nat) (bases : List String) {name : String}
    (old : name ∈ visited) : name ∈ (hierarchy.search depth bases visited).2 := by
  fun_induction search hierarchy depth bases visited with
  | case1 => exact old
  | case2 => exact old
  | case3 visited depth base rest plain seen ih => exact ih old
  | case4 visited base rest plain fresh extended depth unknown ih => exact ih (List.mem_cons_of_mem _ old)
  | case5 visited base rest plain fresh extended above known => exact List.mem_cons_of_mem _ old
  | case6 visited base rest plain fresh extended above depth known middle hit ih =>
    simpa [hit] using ih (List.mem_cons_of_mem _ old)
  | case7 visited base rest plain fresh extended above depth known middle missed inner outer =>
    exact outer (by simpa [missed] using inner (List.mem_cons_of_mem _ old))

theorem climb_of_search (found : (hierarchy.search depth bases visited).1 = true) :
    ∃ passed, hierarchy.Climb bases passed ∧ ∀ base ∈ passed, TypeName.normalize base ∉ visited := by
  fun_induction search hierarchy depth bases visited with
  | case1 => cases found
  | case2 visited depth base rest component => exact ⟨[], .root List.mem_cons_self component, by simp⟩
  | case3 visited depth base rest plain seen ih =>
    obtain ⟨passed, climb, avoids⟩ := ih found
    exact ⟨passed, climb.mono (List.subset_cons_self _ _), avoids⟩
  | case4 visited base rest plain fresh extended depth unknown ih =>
    obtain ⟨passed, climb, avoids⟩ := ih found
    refine ⟨passed, climb.mono (List.subset_cons_self _ _), ?_⟩
    exact fun other member old => avoids other member (List.mem_cons_of_mem _ old)
  | case5 visited base rest plain fresh extended above known => cases found
  | case6 visited base rest plain fresh extended above depth known middle hit ih =>
    obtain ⟨passed, climb, avoids⟩ := ih (by rw [hit])
    refine ⟨base :: passed, .up List.mem_cons_self known climb, ?_⟩
    intro other member
    rcases List.mem_cons.mp member with rfl | higher
    · exact fresh
    · exact fun old => avoids other higher (List.mem_cons_of_mem _ old)
  | case7 visited base rest plain fresh extended above depth known middle missed _ ih =>
    obtain ⟨passed, climb, avoids⟩ := ih found
    refine ⟨passed, climb.mono (List.subset_cons_self _ _), ?_⟩
    intro other member old
    have kept := mem_search_of_mem hierarchy depth above (List.mem_cons_of_mem (TypeName.normalize base) old)
    rw [missed] at kept
    exact avoids other member kept

-- With a level of nesting for each name that is left, the bound on the nesting is never what ends a search.
theorem explored_of_search (enough : (hierarchy.unseen visited).card ≤ depth)
    (missed : (hierarchy.search depth bases visited).1 = false) :
    hierarchy.Explored bases visited (hierarchy.search depth bases visited).2 := by
  fun_induction search hierarchy depth bases visited with
  | case1 => exact .nil
  | case2 => cases missed
  | case3 visited depth base rest plain seen ih =>
    exact .cons_visited (by simpa using plain) seen (ih enough missed)
  | case4 visited base rest plain fresh extended depth unknown ih =>
    have kept := List.subset_cons_self (TypeName.normalize base) visited
    have fewer := Finset.card_le_card (unseen_antitone hierarchy kept)
    exact .cons_unknown (by simpa using plain) unknown (ih (fewer.trans enough) missed)
  | case5 visited base rest plain fresh extended above known =>
    have fewer := unseen_cons_lt known fresh
    omega
  | case6 => cases missed
  | case7 visited base rest plain fresh extended above depth known middle stuck inner outer =>
    have fewer : (hierarchy.unseen extended).card < (hierarchy.unseen visited).card := unseen_cons_lt known fresh
    have explored : hierarchy.Explored above extended middle := by
      simpa [stuck] using inner (by omega) (by rw [stuck])
    have remaining := Finset.card_le_card (unseen_antitone hierarchy explored.kept)
    have enough' : (hierarchy.unseen middle).card ≤ depth + 1 := by omega
    exact .cons_known (by simpa using plain) known explored (outer enough' missed)

theorem reachesComponent_iff (hierarchy : TypeHierarchy) (bases visited : List String) :
    hierarchy.reachesComponent bases visited = true ↔
      ∃ passed, hierarchy.Climb bases passed ∧ ∀ base ∈ passed, TypeName.normalize base ∉ visited := by
  constructor
  · exact climb_of_search
  · rintro ⟨passed, climb, avoids⟩
    by_contra missed
    have explored := explored_of_search (unseen_card_le_depthBound hierarchy visited)
      (by simpa [reachesComponent] using missed)
    exact explored.no_climb climb avoids

theorem isComponent_iff (hierarchy : TypeHierarchy) (name : String) :
    hierarchy.isComponent name = true ↔ ∃ bases, hierarchy.baseTypes name = some bases ∧
      ∃ passed, hierarchy.Climb bases passed ∧ ∀ base ∈ passed, TypeName.normalize base ≠ TypeName.normalize name := by
  unfold isComponent
  cases found : hierarchy.baseTypes name with
  | none => simp
  | some bases => simp [reachesComponent_iff]

-- A climb that passes a name has a part that starts at the bases of that name and does not pass it again.
theorem Climb.avoiding (climb : hierarchy.Climb bases passed) (name : String) :
    (∃ rest, hierarchy.Climb bases rest ∧ ∀ base ∈ rest, TypeName.normalize base ≠ name) ∨
      ∃ own, hierarchy.baseTypes name = some own ∧
        ∃ rest, hierarchy.Climb own rest ∧ ∀ base ∈ rest, TypeName.normalize base ≠ name := by
  induction climb with
  | root listed component => exact .inl ⟨[], .root listed component, by simp⟩
  | @up base bases above passed listed found _ ih =>
    rcases ih with ⟨rest, climb, avoids⟩ | again
    · by_cases same : TypeName.normalize base = name
      · exact .inr ⟨above, same ▸ found, rest, climb, avoids⟩
      · refine .inl ⟨base :: rest, .up listed found climb, ?_⟩
        intro other member
        rcases List.mem_cons.mp member with rfl | higher
        · exact same
        · exact avoids other higher
    · exact .inr again

def Extends (earlier later : TypeHierarchy) : Prop :=
  ∀ name bases, earlier.baseTypes name = some bases →
    ∃ more, later.baseTypes name = some more ∧ bases ⊆ more

theorem Climb.extend {earlier later : TypeHierarchy} {more : List String} (extended : earlier.Extends later)
    (climb : earlier.Climb bases passed) (kept : bases ⊆ more) : later.Climb more passed := by
  induction climb generalizing more with
  | root listed component => exact .root (kept listed) component
  | up listed found _ ih =>
    obtain ⟨above, found', higher⟩ := extended _ _ found
    exact .up (kept listed) found' (ih higher)

theorem isComponent_extend {earlier later : TypeHierarchy} (extended : earlier.Extends later) {name : String}
    (component : earlier.isComponent name = true) : later.isComponent name = true := by
  obtain ⟨bases, found, passed, climb, avoids⟩ := (isComponent_iff earlier name).mp component
  obtain ⟨more, found', kept⟩ := extended name bases found
  exact (isComponent_iff later name).mpr ⟨more, found', passed, climb.extend extended kept, avoids⟩

end TypeHierarchy

namespace TypeIndex

theorem baseTypes_normalize (index : TypeIndex) (name : String) :
    index.baseTypes (TypeName.normalize name) = index.baseTypes name := by
  rw [baseTypes, baseTypes, TypeName.normalize_normalize]

-- An index answers alike for a name and its simple name, so a climb from a type's bases that comes back to the type
-- can leave out the detour.
theorem isComponent_iff_climb (index : TypeIndex) (name : String) :
    index.hierarchy.isComponent name = true ↔ ∃ bases, index.baseTypes name = some bases ∧
      ∃ passed, index.hierarchy.Climb bases passed := by
  rw [TypeHierarchy.isComponent_iff]
  constructor
  · rintro ⟨bases, found, passed, climb, _⟩
    exact ⟨bases, found, passed, climb⟩
  · rintro ⟨bases, found, passed, climb⟩
    rcases climb.avoiding (TypeName.normalize name) with direct | ⟨own, again, direct⟩
    · exact ⟨bases, found, direct⟩
    · rw [← baseTypes_normalize] at found
      exact ⟨own, (baseTypes_normalize index name).symm.trans again, direct⟩

end TypeIndex

theorem isComponentDeclaration_iff (hierarchy : TypeHierarchy) (source : List Char) (declaration : SyntaxNode) :
    isComponentDeclaration hierarchy source declaration = true ↔
      ∃ passed, hierarchy.Climb (declaration.declaredBases source) passed ∧
        ∀ name ∈ declaration.declaredName source, ∀ base ∈ passed,
          TypeName.normalize base ≠ TypeName.normalize name := by
  rw [isComponentDeclaration, TypeHierarchy.reachesComponent_iff]
  cases declaration.declaredName source <;> simp

theorem isComponentDeclaration_extend {earlier later : TypeHierarchy} (extended : earlier.Extends later)
    {source : List Char} {declaration : SyntaxNode}
    (component : isComponentDeclaration earlier source declaration = true) :
    isComponentDeclaration later source declaration = true := by
  obtain ⟨passed, climb, avoids⟩ := (isComponentDeclaration_iff earlier source declaration).mp component
  exact (isComponentDeclaration_iff later source declaration).mpr
    ⟨passed, climb.extend extended (List.Subset.refl _), avoids⟩

-- Every hierarchy in this theorem knows finitely many simple names and is free to have cycles and diamonds.
theorem component_iff_climb :
    (∀ (hierarchy : TypeHierarchy) (name : String),
      hierarchy.isComponent name = true ↔ ∃ bases, hierarchy.baseTypes name = some bases ∧
        ∃ passed, hierarchy.Climb bases passed ∧ ∀ base ∈ passed, TypeName.normalize base ≠ TypeName.normalize name) ∧
    (∀ (index : TypeIndex) (name : String),
      index.hierarchy.isComponent name = true ↔ ∃ bases, index.hierarchy.baseTypes name = some bases ∧
        ∃ passed, index.hierarchy.Climb bases passed) ∧
    ∀ (hierarchy : TypeHierarchy) (source : List Char) (declaration : SyntaxNode) (name : String),
      declaration.declaredName source = some name →
        (isComponentDeclaration hierarchy source declaration = true ↔
          ∃ passed, hierarchy.Climb (declaration.declaredBases source) passed ∧
            ∀ base ∈ passed, TypeName.normalize base ≠ TypeName.normalize name) := by
  refine ⟨TypeHierarchy.isComponent_iff, TypeIndex.isComponent_iff_climb, ?_⟩
  intro hierarchy source declaration name named
  rw [isComponentDeclaration_iff, named]
  simp

end ScriptAudit
