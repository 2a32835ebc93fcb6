import Mathlib.Data.List.Basic
import LoanPricing.Proofs.Rules.Snapshot
import LoanPricing.Proofs.Rules.Trace

/-!
# Credit scores — a better score loses no match

Conditions ask for a credit score of at least so much, never of at most. So whatever fires on a
product fires on the same product with a higher credit score, and what is said about unknown tags is
said there too. The main statement compares the two evaluations as wholes: the rules that matched,
the diagnostics, the outcomes in the trace, and the disqualification.
-/

namespace LoanPricing

/-! ## 1. One rule -/

/-- Two products that conditions tell apart by nothing but a credit score that is higher in the
second, or the same. -/
structure Product.ScoresUpTo (p q : Product) : Prop where
  name : p.name = q.name
  state : p.state = q.state
  creditScore : p.creditScore ≤ q.creditScore

theorem Condition.holds_mono (c : Condition) {p q : Product} (h : p.ScoresUpTo q)
    (hp : c.holds p = true) : c.holds q = true := by
  cases c with
  | stateIs state => rwa [holds, ← h.state]
  | creditScoreAtLeast least =>
    have hleast : least ≤ p.creditScore := of_decide_eq_true hp
    exact decide_eq_true (Int32.le_trans hleast h.creditScore)
  | nameIs name => rwa [holds, ← h.name]
  | unknown tag => exact Bool.noConfusion hp

namespace Rule

variable {p q : Product}

theorem fires_mono (r : Rule) (h : p.ScoresUpTo q) (hp : r.fires p = true) :
    r.fires q = true := by
  obtain ⟨hknown, hholds⟩ := Bool.and_eq_true_iff.mp hp
  exact Bool.and_eq_true_iff.mpr ⟨hknown, r.condition.holds_mono h hholds⟩

/-- What is diagnosed about a rule is diagnosed about it also for the higher credit score. -/
theorem snapshotDiagnostic?_mono (r : Rule) (h : p.ScoresUpTo q) {d : Diagnostic}
    (hp : r.snapshotDiagnostic? p = some d) : r.snapshotDiagnostic? q = some d := by
  rw [snapshotDiagnostic?_eq, Option.or_eq_some_iff] at hp ⊢
  refine hp.imp id (And.imp id fun haction => ?_)
  split at haction
  · rename_i hholds
    rw [if_pos (r.condition.holds_mono h hholds)]
    exact haction
  · injection haction

theorem judge_eq_skipped_iff (r : Rule) (p : Product) :
    r.judge p = .skipped ↔ r.condition.isKnown = false := by
  rcases r.judge_cases p with ⟨hv, hc⟩ | ⟨hv, hc, -⟩ | ⟨hv, hc, -⟩ | ⟨hv, hc, -⟩ <;> rw [hv, hc] <;>
    decide

theorem judge_eq_notMatched_iff (r : Rule) (p : Product) :
    r.judge p = .notMatched ↔ r.condition.isKnown = true ∧ r.condition.holds p = false := by
  rcases r.judge_cases p with ⟨hv, hc⟩ | ⟨hv, hc, hh⟩ | ⟨hv, hc, hh, -⟩ | ⟨hv, hc, hh, -⟩
  · simp [hv, hc]
  all_goals
    rw [hv, hc, hh]
    decide

/-- A rule that does not match the higher credit score does not match the lower one. -/
theorem judge_notMatched_anti (r : Rule) (h : p.ScoresUpTo q) (hq : r.judge q = .notMatched) :
    r.judge p = .notMatched := by
  rw [judge_eq_notMatched_iff] at hq ⊢
  refine ⟨hq.1, Bool.eq_false_iff.mpr fun hholds => ?_⟩
  exact Bool.eq_false_iff.mp hq.2 (r.condition.holds_mono h hholds)

end Rule

/-! ## 2. All rules -/

private theorem filterMap_sublist {α β : Type} {f g : α → Option β} (l : List α)
    (h : ∀ a b, f a = some b → g a = some b) : (l.filterMap f).Sublist (l.filterMap g) := by
  induction l with
  | nil => exact .slnil
  | cons a l ih =>
    cases hf : f a with
    | none =>
      rw [List.filterMap_cons_none hf]
      exact ih.trans ((List.sublist_cons_self a l).filterMap g)
    | some b =>
      rw [List.filterMap_cons_some hf, List.filterMap_cons_some (h a b hf)]
      exact ih.cons_cons b

theorem firedRules_mono (rs : List Rule) {p q : Product} (h : p.ScoresUpTo q) :
    (firedRules rs p).Sublist (firedRules rs q) :=
  List.monotone_filter_right rs fun r => r.fires_mono h

/-- The outcomes in a trace are those of the rules, in order. -/
theorem RuleSet.outcome_trace (set : RuleSet) (tracing : Bool) (p : Product) (i : Nat) :
    (evaluate tracing (some set) p).value.report.trace[i]?.map outcome =
      if tracing then (set.get? i).map fun r => (r.judge p).shown else none := by
  have htrace : (evaluate tracing (some set) p).value.report.trace =
      if tracing then set.rules.map fun r => (r.visit p).shown else [] := by
    rw [evaluate_value, Report.ofVisits, List.map_map]
    rfl
  rw [htrace]
  cases tracing with
  | false => rfl
  | true =>
    rw [if_pos rfl, if_pos rfl, List.getElem?_map, Option.map_map]
    exact congrArg (Option.map · set.rules[i]?) (funext fun r => (r.visit p).outcome_shown)

theorem Verdict.shown_inj {v w : Verdict} : v.shown = w.shown ↔ v = w := by
  cases v <;> cases w <;> decide

/-- A line of a trace tells that its rule is skipped, or not, whatever the product. -/
theorem RuleSet.outcome_skipped_congr (set : RuleSet) (tracing : Bool) (p q : Product) (i : Nat) :
    (evaluate tracing (some set) p).value.report.trace[i]?.map outcome = some "SKIPPED" ↔
      (evaluate tracing (some set) q).value.report.trace[i]?.map outcome = some "SKIPPED" := by
  rw [outcome_trace, outcome_trace]
  cases tracing with
  | false => rfl
  | true =>
    have hskipped : ∀ p : Product, ∀ r : Rule,
        (r.judge p).shown = "SKIPPED" ↔ r.condition.isKnown = false :=
      fun p r => (Verdict.shown_inj (w := .skipped)).trans (r.judge_eq_skipped_iff p)
    simp only [if_true, Option.map_eq_some_iff, hskipped]

theorem RuleSet.outcome_notMatched_anti (set : RuleSet) (tracing : Bool) {p q : Product}
    (h : p.ScoresUpTo q) (i : Nat)
    (hq : (evaluate tracing (some set) q).value.report.trace[i]?.map outcome =
      some "NOT_MATCHED") :
    (evaluate tracing (some set) p).value.report.trace[i]?.map outcome = some "NOT_MATCHED" := by
  rw [outcome_trace] at hq ⊢
  cases tracing with
  | false => injection hq
  | true =>
    rw [if_pos rfl, Option.map_eq_some_iff] at hq ⊢
    obtain ⟨r, hr, hshown⟩ := hq
    have hjudge : r.judge q = .notMatched := (Verdict.shown_inj (w := .notMatched)).mp hshown
    exact ⟨r, hr, by rw [r.judge_notMatched_anti h hjudge]; rfl⟩

/-- **A better credit score loses no match.** Of two products that differ in the credit score only,
the one with the higher score matches, in order, all rules that the other matches and has all its
diagnostics. The same lines of the traces tell of a skipped rule, and a rule that does not match the
higher score does not match the lower one. If the product with the lower score comes out
disqualified, so does the other. -/
theorem evaluate_mono_creditScore (set : RuleSet) (tracing : Bool) (p : Product) {score : Int32}
    (hscore : p.creditScore ≤ score) :
    let e := (evaluate tracing (some set) p).value
    let e' := (evaluate tracing (some set) { p with creditScore := score }).value
    e.report.matchedRules.Sublist e'.report.matchedRules ∧
      e.report.diagnostics.Sublist e'.report.diagnostics ∧
      (∀ i : Nat, e.report.trace[i]?.map outcome = some "SKIPPED" ↔
        e'.report.trace[i]?.map outcome = some "SKIPPED") ∧
      (∀ i : Nat, e'.report.trace[i]?.map outcome = some "NOT_MATCHED" →
        e.report.trace[i]?.map outcome = some "NOT_MATCHED") ∧
      (e.product.disqualified = true → e'.product.disqualified = true) := by
  have h : p.ScoresUpTo { p with creditScore := score } := ⟨rfl, rfl, hscore⟩
  have hfired := firedRules_mono set.rules h
  refine ⟨?_, ?_, fun i => set.outcome_skipped_congr tracing _ _ i,
    fun i => set.outcome_notMatched_anti tracing h i, ?_⟩
  · rw [set.matchedRules_evaluate, set.matchedRules_evaluate]
    exact hfired.map Rule.index
  · rw [set.diagnostics_evaluate, set.diagnostics_evaluate]
    exact filterMap_sublist set.rules fun r _ => r.snapshotDiagnostic?_mono h
  · rw [set.product_evaluate, set.product_evaluate]
    intro hp
    refine Bool.or_eq_true_iff.mpr ((Bool.or_eq_true_iff.mp hp).imp id fun hany => ?_)
    obtain ⟨r, hr, hdisqualifies⟩ := List.any_eq_true.mp hany
    exact List.any_eq_true.mpr ⟨r, hfired.subset hr, hdisqualifies⟩

/-- Thresholds on either side of zero, an unknown action and an unknown condition, and rules that
share a number. The higher score adds a match and a diagnostic. -/
theorem evaluate_mono_creditScore_thresholds :
    let set : RuleSet := { rules := [⟨7, .creditScoreAtLeast (-3), .disqualify⟩,
      ⟨7, .unknown "Texas", .disqualify⟩, ⟨2, .creditScoreAtLeast 800, .unknown "Waive"⟩] }
    let p : Product := { name := "", interestRate := 5, state := "", creditScore := -3 }
    let e := (evaluate true (some set) p).value
    let e' := (evaluate true (some set) { p with creditScore := 800 }).value
    p.creditScore ≤ 800 ∧ e.report.matchedRules = [7] ∧ e'.report.matchedRules = [7, 2] ∧
      e.report.matchedRules.Sublist e'.report.matchedRules ∧
      e.report.diagnostics.Sublist e'.report.diagnostics ∧ e'.report.diagnostics.length = 2 ∧
      e'.product.disqualified = true := by
  intro set p e e'
  have hscore : p.creditScore ≤ 800 := by decide
  obtain ⟨hmatched, hdiagnostics, -, -, hdisqualified⟩ :=
    evaluate_mono_creditScore set true p hscore
  exact ⟨hscore, by decide, by decide, hmatched, hdiagnostics, by decide, hdisqualified (by decide)⟩

end LoanPricing
