import Mathlib.Data.Finset.Card
import Mathlib.Data.Finset.Dedup
import ScriptAudit.Proofs.Tally
import ScriptAudit.Proofs.TypeIndex
import ScriptAudit.Syntax.Grammar.Script

namespace ScriptAudit

variable {α : Type} [DecidableEq α]

-- The members of a list, each once, in the order in which the list first names them.
structure FirstAppearances (items kept : List α) : Prop where
  covered : ∀ item, item ∈ kept ↔ item ∈ items
  ordered : kept.Pairwise fun a b => items.idxOf a < items.idxOf b

theorem FirstAppearances.nodup {items kept : List α} (first : FirstAppearances items kept) : kept.Nodup := by
  apply first.ordered.imp
  intro a b before same
  rw [same] at before
  exact Nat.lt_irrefl _ before

theorem FirstAppearances.unique {items kept others : List α} (first : FirstAppearances items kept)
    (second : FirstAppearances items others) : kept = others := by
  have same : kept.Perm others := by
    rw [List.perm_ext_iff_of_nodup first.nodup second.nodup]
    intro item
    rw [first.covered, second.covered]
  apply same.eq_of_pairwise _ first.ordered second.ordered
  intro a b _ _ before after
  exact absurd after (Nat.lt_asymm before)

theorem FirstAppearances.length {items kept : List α} (first : FirstAppearances items kept) :
    kept.length = items.toFinset.card :=
  length_eq_card_of_nodup first.nodup first.covered

theorem FirstAppearances.snoc {items kept : List α} (first : FirstAppearances items kept) (item : α) :
    FirstAppearances (items ++ [item]) (if item ∈ kept then kept else kept ++ [item]) := by
  have still {a : α} (member : a ∈ kept) : (items ++ [item]).idxOf a = items.idxOf a := by
    rw [List.idxOf_append, if_pos ((first.covered a).mp member)]
  have ordered : kept.Pairwise fun a b => (items ++ [item]).idxOf a < (items ++ [item]).idxOf b := by
    apply first.ordered.imp_of_mem
    intro a b here there before
    rwa [still here, still there]
  by_cases old : item ∈ kept
  · rw [if_pos old]
    refine ⟨?_, ordered⟩
    intro other
    rw [List.mem_append, List.mem_singleton, first.covered]
    constructor
    · exact .inl
    · rintro (member | rfl)
      · exact member
      · exact (first.covered _).mp old
  · rw [if_neg old]
    have fresh : item ∉ items := fun member => old ((first.covered item).mpr member)
    refine ⟨?_, ?_⟩
    · intro other
      rw [List.mem_append, List.mem_append, first.covered]
    · apply List.pairwise_append.mpr
      refine ⟨ordered, List.pairwise_singleton _ _, ?_⟩
      intro a member b last
      rw [List.mem_singleton] at last
      subst last
      have behind : (items ++ [b]).idxOf b = items.length := by simp [List.idxOf_append, fresh]
      rw [still member, behind]
      exact List.idxOf_lt_length_of_mem ((first.covered a).mp member)

theorem FirstAppearances.merge {items bases : List String} (first : FirstAppearances items bases)
    (added : List String) : FirstAppearances (items ++ added) (mergeBases bases added) := by
  -- What was read so far grows at its end by one base at a time, and so does the list kept of it.
  induction added generalizing items bases with
  | nil => simpa [mergeBases] using first
  | cons base rest ih =>
    have next := ih (first.snoc base)
    rwa [List.append_assoc] at next

theorem firstAppearances_merge (added : List String) : FirstAppearances added (mergeBases [] added) := by
  have nothing : FirstAppearances ([] : List String) [] := ⟨by simp, .nil⟩
  exact nothing.merge added

namespace TypeIndex

def names (index : TypeIndex) : List String := index.entries.map (·.1)

def storedNames (types : List (String × List String)) : List String := types.map fun type => TypeName.normalize type.1

theorem names_mergeAt (name : String) (bases : List String) (entries : List (String × List String)) :
    (mergeAt name bases entries).map (·.1) = mergeBases (entries.map (·.1)) [name] := by
  have step (names : List String) : mergeBases names [name] = if name ∈ names then names else names ++ [name] := rfl
  induction entries with
  | nil => rfl
  | cons entry rest ih =>
    unfold mergeAt
    rw [step] at ih ⊢
    by_cases here : entry.1 = name
    · simp [here]
    · rw [if_neg here, List.map_cons, ih]
      by_cases deeper : name ∈ rest.map (·.1)
      · simp [deeper]
      · simp [deeper, Ne.symm here]

theorem addTypes_cons (index : TypeIndex) (type : String × List String) (rest : List (String × List String)) :
    index.addTypes (type :: rest) = (index.addType type.1 type.2).addTypes rest := rfl

theorem names_addTypes (index : TypeIndex) (types : List (String × List String)) :
    (index.addTypes types).names = mergeBases index.names (storedNames types) := by
  induction types generalizing index with
  | nil => rfl
  | cons type rest ih =>
    have added : (index.addType type.1 type.2).names = mergeBases index.names [TypeName.normalize type.1] :=
      names_mergeAt _ _ _
    rw [addTypes_cons, ih, added, ← mergeBases_append]
    rfl

theorem firstAppearances_names (types : List (String × List String)) :
    FirstAppearances (storedNames types) (empty.addTypes types).names := by
  rw [names_addTypes]
  exact firstAppearances_merge _

end TypeIndex

end ScriptAudit
