import LoanPricing.Proofs.Rules.Snapshot

/-!
# Order — which rules may change places

The rate is a sum from the left, so that adjustments of it have to keep their order. All other rules
may stand anywhere among them: they disqualify, or say something about their tags, or do not match.
The main statement is that such a reordering changes nothing about the product, and of the report
only the order.
-/

namespace LoanPricing

/-- Whether a rule changes the rates of the products on which it fires. -/
def Rule.adjusts (r : Rule) : Bool :=
  r.condition.isKnown && r.action.delta?.isSome

/-! ## 1. The product -/

-- A rule that adds something to a rate where it fires is one that adjusts rates.
theorem Rule.delta?_eq_none_of_not_adjusts {r : Rule} {p : Product} (hfires : r.fires p = true)
    (hadjusts : r.adjusts = false) : r.action.delta? = none := by
  have hknown : r.condition.isKnown = true := by
    rw [fires, Bool.and_eq_true] at hfires
    exact hfires.1
  rw [adjusts, hknown, Bool.true_and] at hadjusts
  exact Option.not_isSome_iff_eq_none.mp (ne_true_of_eq_false hadjusts)

/-- Only the rules that adjust rates add anything to a rate. -/
theorem filterMap_delta?_firedRules (rs : List Rule) (p : Product) :
    (firedRules rs p).filterMap (fun r => r.action.delta?) =
      (firedRules (rs.filter Rule.adjusts) p).filterMap fun r => r.action.delta? := by
  unfold firedRules
  rw [List.filterMap_filter, List.filterMap_filter, List.filterMap_filter]
  congr 1
  funext r
  by_cases hfires : r.fires p = true
  · cases hadjusts : r.adjusts with
    | true => rfl
    | false => simp only [hfires, Rule.delta?_eq_none_of_not_adjusts hfires hadjusts, ite_self]
  · simp only [hfires, Bool.false_eq_true, if_false, ite_self]

/-- The product of a snapshot depends on the order of the rules that adjust rates, and on no other
order. -/
theorem snapshotProduct_perm {rs rs' : List Rule} (hperm : rs.Perm rs')
    (hadjusts : rs.filter Rule.adjusts = rs'.filter Rule.adjusts) (p : Product) :
    snapshotProduct rs p = snapshotProduct rs' p := by
  have hdeltas : (firedRules rs p).filterMap (fun r => r.action.delta?) =
      (firedRules rs' p).filterMap fun r => r.action.delta? := by
    rw [filterMap_delta?_firedRules rs, hadjusts, ← filterMap_delta?_firedRules rs']
  have hfired : (firedRules rs p).Perm (firedRules rs' p) := hperm.filter _
  have hdisqualifies : (firedRules rs p).any (fun r => r.action.disqualifies) =
      (firedRules rs' p).any fun r => r.action.disqualifies := hfired.any_eq
  rw [snapshotProduct, snapshotProduct, hdeltas, hdisqualifies]

/-! ## 2. The report -/

/-- Two reports on the same visits, which may have been made in different orders. -/
structure Report.Reordered (r r' : Report) : Prop where
  rulesEvaluated : r.rulesEvaluated = r'.rulesEvaluated
  matchedRules : r.matchedRules.Perm r'.matchedRules
  diagnostics : r.diagnostics.Perm r'.diagnostics
  trace : r.trace.Perm r'.trace

theorem Report.reordered_ofVisits {visits visits' : List Visit} (h : visits.Perm visits')
    (tracing : Bool) : (ofVisits tracing visits).Reordered (ofVisits tracing visits') where
  rulesEvaluated := h.length_eq
  matchedRules := h.filterMap _
  diagnostics := h.filterMap _
  trace := by
    cases tracing with
    | true => exact h.map _
    | false => exact .refl _

/-- **Independent rules may change places.** When rules are put into another order in which those
that adjust rates still follow each other as before, the product comes out the same, with the same
rate to the last bit, and as many rules are evaluated; the matched rules, the diagnostics and the
lines of the trace are the same up to their order. -/
theorem evaluate_perm {rs rs' : List Rule} (hperm : rs.Perm rs')
    (hadjusts : rs.filter Rule.adjusts = rs'.filter Rule.adjusts) (tracing : Bool) (p : Product) :
    let e := (evaluate tracing (some { rules := rs }) p).value
    let e' := (evaluate tracing (some { rules := rs' }) p).value
    e.product = e'.product ∧ e.report.Reordered e'.report := by
  constructor
  · rw [RuleSet.product_evaluate, RuleSet.product_evaluate]
    exact snapshotProduct_perm hperm hadjusts p
  · rw [evaluate_value, evaluate_value]
    have hvisits : (rs.map (Rule.visit p)).Perm (rs'.map (Rule.visit p)) := hperm.map _
    exact Report.reordered_ofVisits hvisits tracing

/-- Between two adjustments stand a rule that disqualifies, one with an unknown action, and one that
would adjust the rate if its condition were known. In the other order all of these come first, and
in reverse. -/
theorem evaluate_perm_adjustments :
    let first : Rule := ⟨0, .creditScoreAtLeast 600, .adjustRate .down 0.1⟩
    let last : Rule := ⟨4, .creditScoreAtLeast 720, .adjustRate .up 0.3⟩
    let others : List Rule := [⟨1, .creditScoreAtLeast 0, .disqualify⟩,
      ⟨2, .creditScoreAtLeast (-1), .unknown "Waive"⟩, ⟨3, .unknown "Texas", .adjustRate .up 0.2⟩]
    let rs := first :: others ++ [last]
    let rs' := others.reverse ++ [first, last]
    let p : Product :=
      { name := "7-1 ARM", interestRate := 5, state := "Florida", creditScore := 720 }
    rs.Perm rs' ∧ rs.filter Rule.adjusts = rs'.filter Rule.adjusts ∧
      let e := (evaluate true (some { rules := rs }) p).value
      let e' := (evaluate true (some { rules := rs' }) p).value
      e.product = e'.product ∧ e.report.Reordered e'.report ∧
        e.report.matchedRules = [0, 1, 2, 4] ∧ e'.report.matchedRules = [2, 1, 0, 4] := by
  intro first last others rs rs' p
  have hperm : rs.Perm rs' := by decide
  have hadjusts : rs.filter Rule.adjusts = rs'.filter Rule.adjusts := by decide
  have hmatched : (evaluate true (some { rules := rs }) p).value.report.matchedRules =
      [0, 1, 2, 4] := by decide
  have hmatched' : (evaluate true (some { rules := rs' }) p).value.report.matchedRules =
      [2, 1, 0, 4] := by decide
  have hresult := evaluate_perm hperm hadjusts true p
  exact ⟨hperm, hadjusts, hresult.1, hresult.2, hmatched, hmatched'⟩

end LoanPricing
