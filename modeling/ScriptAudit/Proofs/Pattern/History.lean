import Mathlib.Data.List.Flatten
import Mathlib.Data.List.Induction
import Mathlib.Data.List.Perm.Basic
import ScriptAudit.Proofs.Project.Configuration

namespace ScriptAudit

inductive RuleSetStep where
  | register (rule : PatternRule)
  | disable (rule : PatternRule)
  | enable (rule : PatternRule)
deriving DecidableEq, Repr

namespace RuleSetStep

def rule : RuleSetStep → PatternRule
  | .register rule => rule
  | .disable rule => rule
  | .enable rule => rule

def registered? : RuleSetStep → Option PatternRule
  | .register rule => some rule
  | _ => none

-- What a step decides about a rule. Registering it once more decides nothing.
def verdict? (about : PatternRule) : RuleSetStep → Option Bool
  | .register _ => none
  | .disable rule => if rule = about then some false else none
  | .enable rule => if rule = about then some true else none

theorem verdict?_of_ne {about : PatternRule} {step : RuleSetStep} (other : step.rule ≠ about) :
    step.verdict? about = none := by
  cases step with
  | register rule => rfl
  | disable rule => exact if_neg other
  | enable rule => exact if_neg other

end RuleSetStep

def registrations (steps : List RuleSetStep) : List PatternRule := steps.filterMap RuleSetStep.registered?

theorem registrations_append (first second : List RuleSetStep) :
    registrations (first ++ second) = registrations first ++ registrations second := List.filterMap_append

def lastVerdict? (steps : List RuleSetStep) (rule : PatternRule) : Option Bool :=
  (steps.filterMap (RuleSetStep.verdict? rule)).getLast?

theorem lastVerdict?_snoc (steps : List RuleSetStep) (step : RuleSetStep) (rule : PatternRule) :
    lastVerdict? (steps ++ [step]) rule = (step.verdict? rule).or (lastVerdict? steps rule) := by
  unfold lastVerdict?
  cases said : step.verdict? rule <;> simp [List.filterMap_append, said]

namespace PatternRuleSet

def perform (set : PatternRuleSet) : RuleSetStep → PatternRuleSet
  | .register rule => set.register rule
  | .disable rule => set.disable rule
  | .enable rule => set.enable rule

def performAll (set : PatternRuleSet) (steps : List RuleSetStep) : PatternRuleSet := steps.foldl perform set

def allEnabled (set : PatternRuleSet) : PatternRuleSet := ⟨set.rules, []⟩

variable {set other : PatternRuleSet} {rule : PatternRule}

theorem isEnabled_perform (set : PatternRuleSet) (step : RuleSetStep) (rule : PatternRule) :
    (set.perform step).isEnabled rule = (step.verdict? rule).getD (set.isEnabled rule) := by
  cases step with
  | register added => rfl
  | disable target =>
    by_cases same : target = rule
    · simp [perform, disable, isEnabled, RuleSetStep.verdict?, same]
    · simp [perform, disable, isEnabled, RuleSetStep.verdict?, same, Ne.symm same]
  | enable target =>
    by_cases same : target = rule
    · simp [perform, enable, isEnabled, RuleSetStep.verdict?, same]
    · simp [perform, enable, isEnabled, RuleSetStep.verdict?, same, Ne.symm same]

theorem isEnabled_performAll (set : PatternRuleSet) (steps : List RuleSetStep) (rule : PatternRule) :
    (set.performAll steps).isEnabled rule = (lastVerdict? steps rule).getD (set.isEnabled rule) := by
  -- The last step is split off, since its verdict is the one that counts.
  induction steps using List.reverseRecOn with
  | nil => rfl
  | append_singleton steps step ih =>
    have last : (set.performAll (steps ++ [step])).isEnabled rule =
        (step.verdict? rule).getD ((set.performAll steps).isEnabled rule) := by
      rw [performAll, List.foldl_append]
      exact isEnabled_perform _ step rule
    rw [last, ih, lastVerdict?_snoc]
    cases step.verdict? rule <;> rfl

theorem rules_perform (set : PatternRuleSet) (step : RuleSetStep) :
    (set.perform step).rules = set.rules ++ step.registered?.toList := by
  cases step with
  | register rule => rfl
  | disable rule => exact (List.append_nil _).symm
  | enable rule => exact (List.append_nil _).symm

theorem rules_performAll (set : PatternRuleSet) (steps : List RuleSetStep) :
    (set.performAll steps).rules = set.rules ++ registrations steps := by
  induction steps generalizing set with
  | nil => exact (List.append_nil _).symm
  | cons step rest ih =>
    have next : (set.performAll (step :: rest)).rules = (set.perform step).rules ++ registrations rest := ih _
    rw [next, rules_perform, List.append_assoc]
    cases registered : step.registered? <;> simp [registrations, registered]

theorem withDisabled_eq (codes : List String) :
    withDisabled codes = builtin.performAll ((codes.filterMap PatternRule.ofCode).map .disable) := by
  rw [performAll, List.foldl_map]
  rfl

structure AnswersAlike (set other : PatternRuleSet) : Prop where
  ids : set.rules = other.rules
  count : set.count = other.count
  enabled : ∀ rule, set.isEnabled rule = other.isEnabled rule
  enabledCount : set.enabledCount = other.enabledCount
  run : ∀ context, set.run context = other.run context
  analyze : ∀ script hierarchy, set.analyze script hierarchy = other.analyze script hierarchy

-- Two rule sets whose answers differ at most in the order of their rules.
structure AnswersAlikeUnordered (set other : PatternRuleSet) : Prop where
  ids : set.rules.Perm other.rules
  count : set.count = other.count
  enabled : ∀ rule, set.isEnabled rule = other.isEnabled rule
  enabledCount : set.enabledCount = other.enabledCount
  run : ∀ context, (set.run context).Perm (other.run context)
  analyze : ∀ script hierarchy, (set.analyze script hierarchy).Perm (other.analyze script hierarchy)

theorem AnswersAlike.of_rules (ids : set.rules = other.rules)
    (enabled : ∀ rule, set.isEnabled rule = other.isEnabled rule) : AnswersAlike set other := by
  have runs := run_congr ids enabled
  refine ⟨ids, congrArg List.length ids, enabled, ?_, congrFun runs, ?_⟩
  · rw [PatternRuleSet.enabledCount, PatternRuleSet.enabledCount, ids, funext enabled]
  · intro script hierarchy
    rw [PatternRuleSet.analyze, PatternRuleSet.analyze, runs]

theorem AnswersAlikeUnordered.of_rules (ids : set.rules.Perm other.rules)
    (enabled : ∀ rule, set.isEnabled rule = other.isEnabled rule) : AnswersAlikeUnordered set other := by
  have runs (context : MethodContext) : (set.run context).Perm (other.run context) := by
    have applied : set.applies context = other.applies context := by
      funext rule
      rw [applies, applies, enabled]
    rw [PatternRuleSet.run, PatternRuleSet.run, applied]
    exact (ids.filter _).flatMap_right _
  refine ⟨ids, ids.length_eq, enabled, ?_, runs, ?_⟩
  · rw [PatternRuleSet.enabledCount, PatternRuleSet.enabledCount, funext enabled]
    exact (ids.filter _).length_eq
  · intro script hierarchy
    exact List.Perm.flatMap_left _ fun context _ => runs context

theorem verdicts_swap {first second : RuleSetStep} (different : first.rule ≠ second.rule) (rule : PatternRule) :
    [first, second].filterMap (RuleSetStep.verdict? rule) = [second, first].filterMap (RuleSetStep.verdict? rule) := by
  by_cases same : first.rule = rule
  · have silent := RuleSetStep.verdict?_of_ne (same ▸ different.symm)
    cases said : first.verdict? rule <;> simp [silent, said]
  · have silent := RuleSetStep.verdict?_of_ne same
    cases said : second.verdict? rule <;> simp [silent, said]

theorem isEnabled_swap (set : PatternRuleSet) {first second : RuleSetStep} (different : first.rule ≠ second.rule)
    (before later : List RuleSetStep) (rule : PatternRule) :
    (set.performAll (before ++ [first, second] ++ later)).isEnabled rule =
      (set.performAll (before ++ [second, first] ++ later)).isEnabled rule := by
  rw [isEnabled_performAll, isEnabled_performAll, lastVerdict?, lastVerdict?]
  simp only [List.filterMap_append, verdicts_swap different]

theorem registrations_swap (first second : RuleSetStep) :
    (registrations [first, second]).Perm (registrations [second, first]) :=
  (List.Perm.swap second first []).filterMap _

theorem registrations_swap_of_none {first second : RuleSetStep}
    (alone : first.registered? = none ∨ second.registered? = none) :
    registrations [first, second] = registrations [second, first] := by
  rcases alone with silent | silent
  · cases registered : second.registered? <;> simp [registrations, silent, registered]
  · cases registered : first.registered? <;> simp [registrations, silent, registered]

theorem isEnabled_reenabled (set : PatternRuleSet) (before between : List RuleSetStep) (rule other : PatternRule) :
    (set.performAll (before ++ [RuleSetStep.disable rule] ++ between ++ [RuleSetStep.enable rule])).isEnabled other =
      (set.performAll (before ++ between ++ [RuleSetStep.enable rule])).isEnabled other := by
  rw [isEnabled_performAll, isEnabled_performAll, lastVerdict?_snoc, lastVerdict?_snoc]
  by_cases same : rule = other
  · have said : (RuleSetStep.enable rule).verdict? other = some true := if_pos same
    rw [said]
    rfl
  · have silent : (RuleSetStep.disable rule).verdict? other = none := if_neg same
    simp [lastVerdict?, List.filterMap_append, silent]

theorem isEnabled_enable_enabled {steps : List RuleSetStep} (enabled : (set.performAll steps).isEnabled rule = true)
    (other : PatternRule) :
    (set.performAll (steps ++ [RuleSetStep.enable rule])).isEnabled other = (set.performAll steps).isEnabled other := by
  rw [isEnabled_performAll, lastVerdict?_snoc]
  by_cases same : rule = other
  · have said : (RuleSetStep.enable rule).verdict? other = some true := if_pos same
    rw [said, ← same, enabled]
    rfl
  · have silent : (RuleSetStep.enable rule).verdict? other = none := if_neg same
    rw [silent, isEnabled_performAll]
    rfl

structure Follows (start : PatternRuleSet) (steps : List RuleSetStep) (set : PatternRuleSet) : Prop where
  enabled : ∀ rule, set.isEnabled rule = (lastVerdict? steps rule).getD (start.isEnabled rule)
  ids : set.rules = start.rules ++ registrations steps
  count : set.count = start.count + (registrations steps).length
  enabledCount : set.enabledCount = (start.rules ++ registrations steps).countP set.isEnabled
  run : ∀ context, set.run context =
    (set.allEnabled.run context).filter fun issue => set.isEnabled issue.rule
  analyze : ∀ script hierarchy, set.analyze script hierarchy =
    (set.allEnabled.analyze script hierarchy).filter fun issue => set.isEnabled issue.rule

theorem follows_performAll (start : PatternRuleSet) (steps : List RuleSetStep) :
    Follows start steps (start.performAll steps) := by
  have ids := rules_performAll start steps
  have same : (start.performAll steps).rules = (start.performAll steps).allEnabled.rules := rfl
  have runs := run_eq_filter same rfl
  refine ⟨isEnabled_performAll start steps, ids, ?_, ?_, runs, analyze_eq_filter runs⟩
  · rw [PatternRuleSet.count, ids, List.length_append]
    rfl
  · rw [PatternRuleSet.enabledCount, ← List.countP_eq_length_filter, ids]

-- A program's rule sets start empty, with the built-in rules, or with those of which codes disable some. Steps on
-- different rules commute, but two registrations keep the order in which they come, and so do the issues they lead to.
theorem history_filters (start : PatternRuleSet) (steps : List RuleSetStep) :
    Follows start steps (start.performAll steps) ∧
    (∀ rule, empty.isEnabled rule = true ∧ builtin.isEnabled rule = true) ∧
    (∀ codes, withDisabled codes = builtin.performAll ((codes.filterMap PatternRule.ofCode).map .disable)) ∧
    (∀ (rule : PatternRule) (between : List RuleSetStep),
      AnswersAlike (start.performAll (steps ++ [RuleSetStep.disable rule] ++ between ++ [RuleSetStep.enable rule]))
        (start.performAll (steps ++ between ++ [RuleSetStep.enable rule])) ∧
      ((start.performAll (steps ++ between)).isEnabled rule = true →
        AnswersAlike (start.performAll (steps ++ [RuleSetStep.disable rule] ++ between ++ [RuleSetStep.enable rule]))
          (start.performAll (steps ++ between)))) ∧
    ∀ (first second : RuleSetStep) (later : List RuleSetStep), first.rule ≠ second.rule →
      AnswersAlikeUnordered (start.performAll (steps ++ [first, second] ++ later))
        (start.performAll (steps ++ [second, first] ++ later)) ∧
      (first.registered? = none ∨ second.registered? = none →
        AnswersAlike (start.performAll (steps ++ [first, second] ++ later))
          (start.performAll (steps ++ [second, first] ++ later))) := by
  refine ⟨follows_performAll start steps, fun rule => ⟨rfl, rfl⟩, withDisabled_eq, ?_, ?_⟩
  · intro rule between
    have silent : registrations [.disable rule] = [] ∧ registrations [.enable rule] = [] := ⟨rfl, rfl⟩
    constructor
    · refine .of_rules ?_ (isEnabled_reenabled start steps between rule)
      simp only [rules_performAll, registrations_append, silent, List.append_nil]
    · intro enabled
      refine .of_rules ?_ ?_
      · simp only [rules_performAll, registrations_append, silent, List.append_nil]
      · intro other
        rw [isEnabled_reenabled, isEnabled_enable_enabled enabled]
  · intro first second later different
    have enabled := isEnabled_swap start different steps later
    constructor
    · refine .of_rules ?_ enabled
      simp only [rules_performAll, registrations_append]
      exact (((registrations_swap first second).append_left _).append_right _).append_left _
    · intro alone
      refine .of_rules ?_ enabled
      simp only [rules_performAll, registrations_append, registrations_swap_of_none alone]

theorem history_filters_reopened :
    let start := withDisabled ["upa0003"]
    (start.performAll [.register .debugLog, .enable .debugLog, .disable .mainCamera]).isEnabled .debugLog = true ∧
    AnswersAlike
      (start.performAll
        [.register .debugLog, .enable .debugLog, .disable .debugLog, .disable .mainCamera, .enable .debugLog])
      (start.performAll [.register .debugLog, .enable .debugLog, .disable .mainCamera]) ∧
    (RuleSetStep.disable .debugLog).rule ≠ (RuleSetStep.register .mainCamera).rule ∧
    (RuleSetStep.disable .debugLog).registered? = none ∧
    AnswersAlike
      (start.performAll
        [.register .debugLog, .enable .debugLog, .disable .debugLog, .register .mainCamera, .enable .debugLog])
      (start.performAll
        [.register .debugLog, .enable .debugLog, .register .mainCamera, .disable .debugLog, .enable .debugLog]) := by
  intro start
  obtain ⟨_, _, _, restored, swapped⟩ := history_filters start [.register .debugLog, .enable .debugLog]
  have enabled : (start.performAll [.register .debugLog, .enable .debugLog, .disable .mainCamera]).isEnabled
      .debugLog = true := by
    decide +kernel
  have different : (RuleSetStep.disable .debugLog).rule ≠ (RuleSetStep.register .mainCamera).rule := by decide
  have commute := (swapped (.disable .debugLog) (.register .mainCamera) [.enable .debugLog] different).2
  exact ⟨enabled, (restored .debugLog [.disable .mainCamera]).2 enabled, different, rfl, commute (.inl rfl)⟩

-- Two rules are listed in the order in which they are registered, and a rule that was disabled before is enabled behind
-- the two steps.
theorem registrations_keep_order :
    let first := RuleSetStep.register .mainCamera
    let second := RuleSetStep.register .expensiveCall
    let start := withDisabled ["UPA0003"]
    first.rule ≠ second.rule ∧
    (empty.performAll [first, second]).rules = [.mainCamera, .expensiveCall] ∧
    (empty.performAll [second, first]).rules = [.expensiveCall, .mainCamera] ∧
    ¬ AnswersAlike (empty.performAll [first, second]) (empty.performAll [second, first]) ∧
    start.isEnabled .debugLog = false ∧
    (start.performAll [.disable .debugLog, .enable .debugLog]).isEnabled .debugLog = true ∧
    ¬ AnswersAlike (start.performAll [.disable .debugLog, .enable .debugLog]) start := by
  intro first second start
  have different : first.rule ≠ second.rule := by decide
  have before : start.isEnabled .debugLog = false := by decide +kernel
  have after : (start.performAll [.disable .debugLog, .enable .debugLog]).isEnabled .debugLog = true := by
    decide +kernel
  refine ⟨different, rfl, rfl, ?_, before, after, ?_⟩
  · intro alike
    cases alike.ids
  · intro alike
    have same := alike.enabled .debugLog
    rw [after, before] at same
    cases same

end PatternRuleSet

end ScriptAudit
