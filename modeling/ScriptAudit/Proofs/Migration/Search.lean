import ScriptAudit.Migration.Registry
import ScriptAudit.Proofs.Text.Lowercase
import ScriptAudit.Proofs.Text.Occurrence

namespace ScriptAudit

open Text Text.Lowercase

namespace MigrationRegistry

theorem mem_search_iff {registry : MigrationRegistry} {pattern : String} {m : ApiMigration} :
    m ∈ registry.search pattern ↔ m ∈ registry.entries ∧ lower pattern.toList <:+: lower m.oldApi.toList := by
  unfold search
  rw [List.mem_filter, occurs_iff_infix]

theorem mem_search_of_keepsForms {registry : MigrationRegistry} {pattern : String} {m : ApiMigration}
    {before after : List Char} (listed : m ∈ registry.entries)
    (parts : m.oldApi.toList = before ++ (pattern.toList ++ after))
    (keeps : KeepsForms before pattern.toList after) : m ∈ registry.search pattern := by
  obtain ⟨front, back, same⟩ := lower_append before pattern.toList after keeps
  refine mem_search_iff.mpr ⟨listed, front, back, ?_⟩
  rw [parts, same, List.append_assoc]

theorem search_finds_literals (registry : MigrationRegistry) :
    (∀ m ∈ registry.entries, ∀ (pattern : String) (before after : List Char),
      m.oldApi.toList = before ++ (pattern.toList ++ after) → KeepsForms before pattern.toList after →
        m ∈ registry.search pattern) ∧
    (∀ m ∈ registry.entries, ∀ pattern : String, pattern.toList <:+: m.oldApi.toList →
      capitalSigma ∉ pattern.toList → m ∈ registry.search pattern) ∧
    (∀ pattern pattern' : String, foldAscii pattern.toList = foldAscii pattern'.toList →
      registry.search pattern = registry.search pattern') ∧
    ∀ pattern, (registry.search pattern).Sublist registry.entries := by
  refine ⟨?_, ?_, ?_, ?_⟩
  · intro m listed pattern before after parts keeps
    exact mem_search_of_keepsForms listed parts keeps
  · rintro m listed pattern ⟨before, after, parts⟩ absent
    rw [List.append_assoc] at parts
    exact mem_search_of_keepsForms listed parts.symm (keepsForms_of_not_mem before after absent)
  · intro pattern pattern' same
    unfold search
    rw [lower_eq_of_foldAscii same]
  · intro pattern
    exact List.filter_sublist

def roadMigration : ApiMigration := ⟨"Find.ΟΔΟΣ", "", "2022.3", none, "", ""⟩

theorem search_finds_literals_road :
    KeepsForms "Find.".toList "ΟΔΟΣ".toList [] ∧ roadMigration ∈ search ⟨[roadMigration]⟩ "ΟΔΟΣ" ∧
    roadMigration ∈ search ⟨[roadMigration]⟩ "nd." ∧
    search ⟨[roadMigration]⟩ "find.ΟΔ" = search ⟨[roadMigration]⟩ "FIND.ΟΔ" := by
  obtain ⟨found, foundPlain, folded, _⟩ := search_finds_literals ⟨[roadMigration]⟩
  have listed : roadMigration ∈ [roadMigration] := List.mem_cons_self
  have keeps : KeepsForms "Find.".toList "ΟΔΟΣ".toList [] := by decide +kernel
  refine ⟨keeps, found _ listed _ "Find.".toList [] (by decide +kernel) keeps, ?_, folded _ _ (by decide +kernel)⟩
  exact foundPlain _ listed _ ⟨"Fi".toList, "ΟΔΟΣ".toList, by decide +kernel⟩ (by decide +kernel)

-- Alone, the sigma ends no word and becomes another letter than in the call.
theorem search_misses_sigma :
    (¬ ∀ (registry : MigrationRegistry) (pattern : String), ∀ m ∈ registry.entries,
      pattern.toList <:+: m.oldApi.toList → m ∈ registry.search pattern) ∧
    "Σ".toList <:+: roadMigration.oldApi.toList ∧ search ⟨[roadMigration]⟩ "Σ" = [] := by
  have literal : "Σ".toList <:+: roadMigration.oldApi.toList := ⟨"Find.ΟΔΟ".toList, [], by decide +kernel⟩
  have missed : search ⟨[roadMigration]⟩ "Σ" = [] := by decide +kernel
  refine ⟨?_, literal, missed⟩
  intro all
  have found := all ⟨[roadMigration]⟩ "Σ" roadMigration List.mem_cons_self literal
  rw [missed] at found
  cases found

end MigrationRegistry

end ScriptAudit
