import ScriptAudit.Pattern.Report
import ScriptAudit.Proofs.Tally

namespace ScriptAudit

theorem PatternRule.rank_injective {first second : PatternRule} (same : first.rank = second.rank) : first = second := by
  cases first <;> cases second <;> first | rfl | cases same

theorem PatternRule.nodup_all : all.Nodup := by decide

theorem PatternRule.mem_all (rule : PatternRule) : rule ∈ all := by
  cases rule <;> decide

theorem PatternReportOptions.keeps_iff (options : PatternReportOptions) (issue : PatternIssue) :
    options.keeps issue = true ↔ (options.includeInfo = true ∨ issue.severity ≠ .info) ∧
      (options.hotPathsOnly = false ∨ issue.inHotPath = true) := by
  simp [keeps]

namespace RuleCount

theorem ranksBefore_iff (a b : RuleCount) :
    a.ranksBefore b = true ↔ b.count < a.count ∨ a.count = b.count ∧ a.rule.rank ≤ b.rule.rank := by
  simp [ranksBefore]

theorem ranksBefore_trans (a b c : RuleCount) (first : a.ranksBefore b = true) (second : b.ranksBefore c = true) :
    a.ranksBefore c = true := by
  rw [ranksBefore_iff] at first second ⊢
  omega

theorem ranksBefore_total (a b : RuleCount) : (a.ranksBefore b || b.ranksBefore a) = true := by
  rw [Bool.or_eq_true, ranksBefore_iff, ranksBefore_iff]
  omega

end RuleCount

def ruleEntries (issues : List PatternIssue) : List RuleCount :=
  (PatternRule.all.map fun rule => RuleCount.mk rule ((issues.map (·.rule)).count rule)).filter fun entry =>
    0 < entry.count

theorem nodup_ruleEntries (issues : List PatternIssue) : ((ruleEntries issues).map RuleCount.rule).Nodup := by
  have kept : ((ruleEntries issues).map RuleCount.rule).Sublist PatternRule.all := by
    refine (List.filter_sublist.map RuleCount.rule).trans ?_
    simp [Function.comp_def]
  exact PatternRule.nodup_all.sublist kept

theorem mem_countRules {issues : List PatternIssue} {entry : RuleCount} :
    entry ∈ countRules issues ↔ 0 < entry.count ∧ entry.count = (issues.map (·.rule)).count entry.rule := by
  rw [countRules, List.mem_mergeSort, List.mem_filter, decide_eq_true_iff, List.mem_map]
  constructor
  · rintro ⟨⟨rule, _, rfl⟩, positive⟩
    exact ⟨positive, rfl⟩
  · rintro ⟨positive, counted⟩
    refine ⟨⟨entry.rule, entry.rule.mem_all, ?_⟩, positive⟩
    rw [← counted]

theorem countRules_accounts (issues : List PatternIssue) :
    Accounts RuleCount.rule RuleCount.count (fun a b => a.rank < b.rank) (countRules issues) (issues.map (·.rule)) := by
  refine .of_counted (fun a b => a.rank ≤ b.rank) ?_ ?_ ?_ ?_ ?_
  · intro entry member
    exact mem_countRules.mp member
  · intro rule member
    have found : (⟨rule, (issues.map (·.rule)).count rule⟩ : RuleCount) ∈ countRules issues :=
      mem_countRules.mpr ⟨List.count_pos_iff.mpr member, rfl⟩
    exact List.mem_map_of_mem found
  · have arranged := (List.mergeSort_perm (ruleEntries issues) RuleCount.ranksBefore).map RuleCount.rule
    exact arranged.nodup_iff.mpr (nodup_ruleEntries issues)
  · have sorted := List.pairwise_mergeSort RuleCount.ranksBefore_trans RuleCount.ranksBefore_total (ruleEntries issues)
    exact sorted.imp fun ranked => (RuleCount.ranksBefore_iff _ _).mp ranked
  · intro a b notAfter apart
    exact Nat.lt_of_le_of_ne notAfter fun same => apart (PatternRule.rank_injective same)

theorem countRules_perm {issues others : List PatternIssue} (same : issues.Perm others) :
    countRules issues = countRules others := by
  have counted (rule : PatternRule) : (issues.map (·.rule)).count rule = (others.map (·.rule)).count rule :=
    (same.map _).count_eq rule
  simp only [countRules, counted]

namespace PatternReport

structure SameCounts (one other : PatternReport) : Prop where
  totalIssues : one.totalIssues = other.totalIssues
  byRule : one.byRule = other.byRule
  byCategory : one.byCategory = other.byCategory

theorem build_perm {issues others : List PatternIssue} (same : issues.Perm others) (scope : String)
    (options : PatternReportOptions) : SameCounts (build scope issues options) (build scope others options) := by
  have kept := same.filter options.keeps
  exact ⟨kept.length_eq, countRules_perm kept, countBy_perm (kept.map _)⟩

end PatternReport

end ScriptAudit
