import LoanPricing.Proofs.Rules.Compile
import LoanPricing.Proofs.Rules.Snapshot
import LoanPricing.Proofs.Rules.Vocabulary

/-!
# Bookkeeping — a report and its rule set

A report says of rules by their numbers which of them matched and which are diagnosed. For compiled
rules the numbers are positions. So the numbers in a report increase, as the rules do, and lead back
to the rules that are meant; and there are no more diagnostics than rules with unknown tags. There
are as many of them when all known conditions hold of the product.
-/

namespace LoanPricing

/-- The number of the rule that a diagnostic is about. -/
def Diagnostic.rule? : Diagnostic → Option Nat
  | rulesNotLoaded => none
  | unknownCondition rule _ => some rule
  | unknownAction rule _ => some rule

/-! ## 1. What is diagnosed about a rule -/

namespace Rule

variable {r : Rule} {p : Product} {d : Diagnostic}

theorem rule?_of_snapshotDiagnostic? (h : r.snapshotDiagnostic? p = some d) :
    d.rule? = some r.index := by
  rcases snapshotDiagnostic?_cases h with ⟨tag, rfl, -⟩ | ⟨tag, rfl, -⟩ <;> rfl

/-- There is something to say about a rule with an unknown condition, and about one with an unknown
action whose condition holds. -/
theorem isSome_snapshotDiagnostic? (r : Rule) (p : Product) :
    (r.snapshotDiagnostic? p).isSome =
      (!r.condition.isKnown || (r.condition.holds p && !r.action.isKnown)) := by
  rw [snapshotDiagnostic?_eq, Option.isSome_or, Option.isSome_map, Condition.isKnown,
    Action.isKnown]
  cases r.condition.unknownTag? <;> cases r.condition.holds p <;> cases r.action.unknownTag? <;> rfl

-- What is diagnosed is an unknown tag.
theorem hasUnknownTag_of_isSome (h : (r.snapshotDiagnostic? p).isSome = true) :
    r.hasUnknownTag = true := by
  rw [isSome_snapshotDiagnostic?] at h
  rw [hasUnknownTag]
  revert h
  cases r.condition.isKnown <;> cases r.condition.holds p <;> cases r.action.isKnown <;> decide

end Rule

/-! ## 2. Numbers in a report -/

/-- Diagnostics carry the numbers of the rules that they are about, one after the other. -/
theorem map_rule?_diagnostics (rs : List Rule) (p : Product) :
    (rs.filterMap (Rule.snapshotDiagnostic? p)).map Diagnostic.rule? =
      ((rs.filter fun r => (r.snapshotDiagnostic? p).isSome).map Rule.index).map some := by
  rw [List.map_filterMap, List.map_map, ← List.filterMap_eq_map, List.filterMap_filter]
  congr 1
  funext r
  cases hd : r.snapshotDiagnostic? p with
  | none => rfl
  | some d => exact congrArg some (Rule.rule?_of_snapshotDiagnostic? hd)

namespace RuleSet.IsNumbered

variable {set : RuleSet} {p : Product} {i : Nat} {tag : String}

/-- The numbers of some of the rules, in order, increase. -/
theorem pairwise_index (h : set.IsNumbered) (q : Rule → Bool) :
    ((set.rules.filter q).map Rule.index).Pairwise (· < ·) := by
  have hsub : ((set.rules.filter q).map Rule.index).Sublist (List.range set.size) := by
    rw [← h]
    exact List.filter_sublist.map Rule.index
  exact List.pairwise_lt_range.sublist hsub

/-- The numbers of the rules that fire are the positions of rules that fire. -/
theorem mem_fired_iff (h : set.IsNumbered) :
    i ∈ (firedRules set.rules p).map Rule.index ↔ ∃ r, set.get? i = some r ∧ r.fires p = true := by
  rw [List.mem_map]
  constructor
  · rintro ⟨r, hr, rfl⟩
    obtain ⟨hmem, hfires⟩ := List.mem_filter.mp hr
    exact ⟨r, h.get?_index hmem, hfires⟩
  · rintro ⟨r, hget, hfires⟩
    exact ⟨r, List.mem_filter.mpr ⟨List.mem_of_getElem? hget, hfires⟩, h.index_of_get? hget⟩

/-- A rule whose condition is reported does not match, and has the condition that is reported. -/
theorem of_unknownCondition (h : set.IsNumbered)
    (hd : .unknownCondition i tag ∈ set.rules.filterMap (Rule.snapshotDiagnostic? p)) :
    i ∉ (firedRules set.rules p).map Rule.index ∧
      ∃ r, set.get? i = some r ∧ r.condition = .unknown tag := by
  obtain ⟨r, hr, hdiagnostic⟩ := List.mem_filterMap.mp hd
  rcases Rule.snapshotDiagnostic?_cases hdiagnostic with ⟨tag', heq, hc⟩ | ⟨tag', heq, -⟩
  · obtain ⟨rfl, rfl⟩ := Diagnostic.unknownCondition.inj heq
    have hget : set.get? r.index = some r := h.get?_index hr
    refine ⟨fun hmem => ?_, r, hget, hc⟩
    obtain ⟨r', hget', hfires⟩ := h.mem_fired_iff.mp hmem
    rw [← Option.some.inj (hget.symm.trans hget'), Rule.fires, hc] at hfires
    exact Bool.noConfusion hfires
  · exact Diagnostic.noConfusion heq

/-- A rule whose action is reported matches, and has the action that is reported. -/
theorem of_unknownAction (h : set.IsNumbered)
    (hd : .unknownAction i tag ∈ set.rules.filterMap (Rule.snapshotDiagnostic? p)) :
    i ∈ (firedRules set.rules p).map Rule.index ∧
      ∃ r, set.get? i = some r ∧ r.action = .unknown tag := by
  obtain ⟨r, hr, hdiagnostic⟩ := List.mem_filterMap.mp hd
  rcases Rule.snapshotDiagnostic?_cases hdiagnostic with ⟨tag', heq, -⟩ | ⟨tag', heq, ha, hfires⟩
  · exact Diagnostic.noConfusion heq
  · obtain ⟨rfl, rfl⟩ := Diagnostic.unknownAction.inj heq
    have hget : set.get? r.index = some r := h.get?_index hr
    exact ⟨h.mem_fired_iff.mpr ⟨r, hget, hfires⟩, r, hget, ha⟩

end RuleSet.IsNumbered

/-! ## 3. The number of diagnostics -/

theorem length_diagnostics_le (rs : List Rule) (p : Product) :
    (rs.filterMap (Rule.snapshotDiagnostic? p)).length ≤ rs.countP Rule.hasUnknownTag := by
  rw [List.length_filterMap_eq_countP]
  exact List.countP_mono_left fun r _ h => Rule.hasUnknownTag_of_isSome h

/-- Of a product of which all known conditions hold, exactly the conditions of known tags hold. -/
theorem Condition.holds_ofTag_of_forall {p : Product}
    (hall : ∀ entry ∈ vocabulary, entry.2.holds p = true) (tag : String) :
    (ofTag tag).holds p = (ofTag tag).isKnown := by
  rcases ofTag_cases tag with htag | htag | htag | htag
  · rw [htag]
    exact hall ("florida", .stateIs "florida") (by decide)
  · rw [htag]
    exact hall ("creditscore720", .creditScoreAtLeast 720) (by decide)
  · rw [htag]
    exact hall ("productname7-1arm", .nameIs "7-1 arm") (by decide)
  · rw [htag]
    rfl

/-- All unknown tags of compiled rules are diagnosed if all known conditions hold. A rule with two
of them counts once. -/
theorem RuleSet.length_diagnostics_of_compile {mode : Mode} {records : List RuleRecord}
    {set : RuleSet} (hcompile : (RuleSet.compile mode records).value = .ok set) {p : Product}
    (hall : ∀ entry ∈ Condition.vocabulary, entry.2.holds p = true) :
    (set.rules.filterMap (Rule.snapshotDiagnostic? p)).length = set.unknownTagCount := by
  rw [List.length_filterMap_eq_countP, unknownTagCount]
  refine List.countP_congr fun r hr => ?_
  obtain ⟨index, record, rfl⟩ := exists_rule_of_compile hcompile hr
  rw [Rule.isSome_snapshotDiagnostic?, Rule.hasUnknownTag, RuleRecord.rule_condition,
    Condition.holds_ofTag_of_forall hall]
  cases (Condition.ofTag record.condition).isKnown <;> simp

/-! ## 4. Reports and rule sets -/

/-- A report that agrees with a rule set, and in itself. -/
structure Report.AgreesWith (report : Report) (set : RuleSet) : Prop where
  rulesEvaluated : report.rulesEvaluated = set.size
  matchedIncrease : report.matchedRules.Pairwise (· < ·)
  matchedAreRules : ∀ i ∈ report.matchedRules, i < set.size
  diagnosedIncrease : ∃ numbers : List Nat,
    report.diagnostics.map Diagnostic.rule? = numbers.map some ∧ numbers.Pairwise (· < ·)
  unknownCondition : ∀ i tag, .unknownCondition i tag ∈ report.diagnostics →
    i ∉ report.matchedRules ∧ ∃ r, set.get? i = some r ∧ r.condition = .unknown tag
  unknownAction : ∀ i tag, .unknownAction i tag ∈ report.diagnostics →
    i ∈ report.matchedRules ∧ ∃ r, set.get? i = some r ∧ r.action = .unknown tag
  diagnosticsAtMost : report.diagnostics.length ≤ set.unknownTagCount

theorem RuleSet.IsNumbered.agreesWith {set : RuleSet} (h : set.IsNumbered) (tracing : Bool)
    (p : Product) : (evaluate tracing (some set) p).value.report.AgreesWith set where
  rulesEvaluated := by
    rw [evaluate_value]
    exact List.length_map _
  matchedIncrease := by
    rw [set.matchedRules_evaluate]
    exact h.pairwise_index _
  matchedAreRules := by
    rw [set.matchedRules_evaluate]
    intro i hi
    obtain ⟨r, hget, -⟩ := h.mem_fired_iff.mp hi
    exact (List.getElem?_eq_some_iff.mp hget).1
  diagnosedIncrease := by
    rw [set.diagnostics_evaluate, map_rule?_diagnostics]
    exact ⟨_, rfl, h.pairwise_index _⟩
  unknownCondition := by
    rw [set.diagnostics_evaluate, set.matchedRules_evaluate]
    exact fun i tag => h.of_unknownCondition
  unknownAction := by
    rw [set.diagnostics_evaluate, set.matchedRules_evaluate]
    exact fun i tag => h.of_unknownAction
  diagnosticsAtMost := by
    rw [set.diagnostics_evaluate]
    exact length_diagnostics_le set.rules p

/-- **Reports agree with their rule sets.** A report on compiled rules counts them all; the numbers
of the rules that matched increase, and so do the numbers in the diagnostics; a diagnostic about a
condition is about a rule that did not match, and one about an action about a rule that did, and its
tag is the one that the rule at this position keeps. There are no more diagnostics than rules with
unknown tags, and as many if the product meets every known condition. -/
theorem evaluate_agreesWith {mode : Mode} {records : List RuleRecord} {set : RuleSet}
    (hcompile : (RuleSet.compile mode records).value = .ok set) (tracing : Bool) (p : Product) :
    let report := (evaluate tracing (some set) p).value.report
    report.AgreesWith set ∧
      ((∀ entry ∈ Condition.vocabulary, entry.2.holds p = true) →
        report.diagnostics.length = set.unknownTagCount) := by
  intro report
  refine ⟨(RuleSet.isNumbered_of_compile hcompile).agreesWith tracing p, fun hall => ?_⟩
  have hdiagnostics : report.diagnostics = set.rules.filterMap (Rule.snapshotDiagnostic? p) :=
    set.diagnostics_evaluate tracing p
  rw [hdiagnostics]
  exact RuleSet.length_diagnostics_of_compile hcompile hall

/-- A rule with two unknown tags, one with an unknown action and one with none, on a product that
meets every known condition and on one with too low a credit score. -/
theorem evaluate_agreesWith_waive :
    let records : List RuleRecord :=
      [⟨"Texas", "Waive", 0⟩, ⟨"CREDITSCORE720", "Waive", 0⟩, ⟨"florida", "Disqualify", 0⟩]
    let p : Product :=
      { name := "7-1 ARM", interestRate := 5, state := "Florida", creditScore := 720 }
    ∃ set, (RuleSet.compile .lenient records).value = .ok set ∧
      (∀ entry ∈ Condition.vocabulary, entry.2.holds p = true) ∧
      (evaluate false (some set) p).value.report.AgreesWith set ∧
      (evaluate false (some set) p).value.report.diagnostics.length = set.unknownTagCount ∧
      set.unknownTagCount = 2 ∧
      (evaluate true (some set) { p with creditScore := 719 }).value.report.AgreesWith set := by
  intro records p
  have hcompile : (RuleSet.compile .lenient records).value =
      .ok { rules := RuleRecord.rulesFrom 0 records } :=
    RuleSet.compile_lenient_of_isFinite (by decide)
  have hstate : (Condition.stateIs "florida").holds p = true :=
    Text.sameIgnoringCase_of_lower (by decide +kernel : _ = "florida") (by decide +kernel)
  have hname : (Condition.nameIs "7-1 arm").holds p = true :=
    Text.sameIgnoringCase_of_lower (by decide +kernel : _ = "7-1 arm") (by decide +kernel)
  have hall : ∀ entry ∈ Condition.vocabulary, entry.2.holds p = true :=
    List.forall_mem_cons.mpr ⟨hstate, List.forall_mem_cons.mpr ⟨by decide,
      List.forall_mem_cons.mpr ⟨hname, List.forall_mem_nil _⟩⟩⟩
  obtain ⟨hreport, hcount⟩ := evaluate_agreesWith hcompile false p
  exact ⟨_, hcompile, hall, hreport, hcount hall, by decide +kernel,
    (evaluate_agreesWith hcompile true { p with creditScore := 719 }).1⟩

end LoanPricing
