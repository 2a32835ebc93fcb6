import LoanPricing.Rules.Evaluate

/-!
# Visits — verdicts are the same before and after other rules

Rules are judged on the product as earlier rules have left it. But conditions look at the name,
the state and the credit score of a product, and actions change its rate and its disqualification:
no action ever writes what a condition reads. So a rule is judged on the product of the moment
just as on the product of the beginning, and the visits of an evaluation are known without running
it.
-/

namespace LoanPricing

/-! ## 1. Actions and conditions do not meet -/

/-- Two products about which all conditions agree. -/
structure Product.AlikeForConditions (p q : Product) : Prop where
  name : p.name = q.name
  state : p.state = q.state
  creditScore : p.creditScore = q.creditScore

namespace Product.AlikeForConditions

theorem refl (p : Product) : p.AlikeForConditions p := ⟨rfl, rfl, rfl⟩

theorem trans {p q r : Product} (hpq : p.AlikeForConditions q) (hqr : q.AlikeForConditions r) :
    p.AlikeForConditions r :=
  ⟨hpq.name.trans hqr.name, hpq.state.trans hqr.state, hpq.creditScore.trans hqr.creditScore⟩

end Product.AlikeForConditions

-- An action leaves the product as it was, as far as conditions look.
theorem Action.apply_alike (a : Action) (p : Product) : (a.apply p).AlikeForConditions p := by
  obtain ⟨hname, hstate, hscore⟩ := a.apply_keeps p
  exact ⟨hname, hstate, hscore⟩

theorem Rule.after_alike (r : Rule) (v : Verdict) (p : Product) :
    (r.after v p).AlikeForConditions p := by
  cases v with
  | applied => exact r.action.apply_alike p
  | skipped => exact .refl p
  | notMatched => exact .refl p
  | noEffect => exact .refl p

theorem Condition.holds_congr (c : Condition) {p q : Product} (h : p.AlikeForConditions q) :
    c.holds p = c.holds q := by
  cases c with
  | stateIs state => simp only [holds, h.state]
  | creditScoreAtLeast least => simp only [holds, h.creditScore]
  | nameIs name => simp only [holds, h.name]
  | unknown tag => rfl

theorem Rule.judge_congr (r : Rule) {p q : Product} (h : p.AlikeForConditions q) :
    r.judge p = r.judge q := by
  unfold judge
  rw [r.condition.holds_congr h]

/-! ## 2. The visits of an evaluation -/

/-- The visit of a rule to a product. -/
def Rule.visit (p : Product) (r : Rule) : Visit where
  rule := r
  verdict := r.judge p

namespace Rule

variable {r : Rule} {p : Product}

theorem visit_of_unknownCondition (hc : r.condition.isKnown = false) :
    r.visit p = { rule := r, verdict := .skipped } := by
  simp [visit, judge, hc]

theorem visit_of_not_holds (hc : r.condition.isKnown = true) (hh : r.condition.holds p = false) :
    r.visit p = { rule := r, verdict := .notMatched } := by
  simp [visit, judge, hc, hh]

theorem visit_of_unknownAction (hc : r.condition.isKnown = true)
    (hh : r.condition.holds p = true) (ha : r.action.isKnown = false) :
    r.visit p = { rule := r, verdict := .noEffect } := by
  simp [visit, judge, hc, hh, ha]

theorem visit_of_known (hc : r.condition.isKnown = true) (hh : r.condition.holds p = true)
    (ha : r.action.isKnown = true) : r.visit p = { rule := r, verdict := .applied } := by
  simp [visit, judge, hc, hh, ha]

end Rule

theorem Rule.visit_congr {p q : Product} (h : p.AlikeForConditions q) :
    Rule.visit p = Rule.visit q := by
  funext r
  rw [visit, visit, r.judge_congr h]

theorem visitAll_cons_fst (r : Rule) (rs : List Rule) (p : Product) :
    (visitAll (r :: rs) p).1 = r.visit p :: (visitAll rs (r.after (r.judge p) p)).1 := rfl

theorem visitAll_cons_snd (r : Rule) (rs : List Rule) (p : Product) :
    (visitAll (r :: rs) p).2 = (visitAll rs (r.after (r.judge p) p)).2 := rfl

/-- All rules are judged as if on the product of the beginning. -/
theorem visitAll_fst (rs : List Rule) (p : Product) :
    (visitAll rs p).1 = rs.map (Rule.visit p) := by
  induction rs generalizing p with
  | nil => rfl
  | cons r rs ih =>
    rw [visitAll_cons_fst, ih, Rule.visit_congr (r.after_alike (r.judge p) p)]
    rfl

-- An evaluation leaves the product as it was, as far as conditions look.
theorem visitAll_snd_alike (rs : List Rule) (p : Product) :
    (visitAll rs p).2.AlikeForConditions p := by
  induction rs generalizing p with
  | nil => exact .refl p
  | cons r rs ih =>
    rw [visitAll_cons_snd]
    exact (ih (r.after (r.judge p) p)).trans (r.after_alike (r.judge p) p)

/-- No visit has the diagnostic that there are no rules. -/
theorem Visit.diagnostic?_ne_rulesNotLoaded {v : Visit} {d : Diagnostic}
    (h : v.diagnostic? = some d) : d ≠ .rulesNotLoaded := by
  unfold diagnostic? at h
  split at h
  · obtain ⟨tag, -, rfl⟩ := Option.map_eq_some_iff.mp h
    exact Diagnostic.noConfusion
  · obtain ⟨tag, -, rfl⟩ := Option.map_eq_some_iff.mp h
    exact Diagnostic.noConfusion
  · injection h

/-- What comes of an evaluation: the report on the visits, and the product after them. -/
theorem evaluate_value (tracing : Bool) (set : RuleSet) (p : Product) :
    (evaluate tracing (some set) p).value =
      { report := .ofVisits tracing (set.rules.map (Rule.visit p))
        product := (visitAll set.rules p).2 } := by
  rw [← visitAll_fst]
  rfl

end LoanPricing
