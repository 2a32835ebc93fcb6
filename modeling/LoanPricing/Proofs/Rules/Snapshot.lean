import LoanPricing.Proofs.Rules.Visits

/-!
# Snapshots — an evaluation in two phases

A snapshot evaluation looks at the product of the beginning only. First it picks the rules that
*fire*, those with a known condition that holds of this product; then it disqualifies the product
if some fired rule says so and adds what the fired rules add to the rate, in their order, in one
sum. The main statement is that applying rules one after another, each to the product that the
one before it has left, comes to the same in everything that is reported.
-/

namespace LoanPricing

/-! ## 1. The two phases -/

/-- What an action adds to the rate, if it is an adjustment. -/
def Action.delta? : Action → Option Float
  | .adjustRate way amount => some (Action.delta way amount)
  | _ => none

/-- Whether an action disqualifies. -/
def Action.disqualifies : Action → Bool
  | .disqualify => true
  | _ => false

/-- Whether a rule fires on a product: its condition is known and holds. -/
def Rule.fires (p : Product) (r : Rule) : Bool :=
  r.condition.isKnown && r.condition.holds p

/-- The rules that fire on a product, in order. -/
def firedRules (rs : List Rule) (p : Product) : List Rule :=
  rs.filter (Rule.fires p)

/-- What the snapshot reports about a rule: an unknown condition always, an unknown action if the
rule fires. -/
def Rule.snapshotDiagnostic? (p : Product) (r : Rule) : Option Diagnostic :=
  match r.condition, r.action with
  | .unknown tag, _ => some (.unknownCondition r.index tag)
  | c, .unknown tag => if c.holds p then some (.unknownAction r.index tag) else none
  | _, _ => none

/-- The product after the fired rules, all at once: the changes of the rate in one sum from the
left, and the disqualification. -/
def snapshotProduct (rs : List Rule) (p : Product) : Product where
  name := p.name
  interestRate :=
    ((firedRules rs p).filterMap fun r => r.action.delta?).foldl (· + ·) p.interestRate
  state := p.state
  creditScore := p.creditScore
  disqualified := p.disqualified || (firedRules rs p).any fun r => r.action.disqualifies

/-- The evaluation of a product by rules that look at nothing but the product as it is given. -/
def snapshotEvaluation (tracing : Bool) (rs : List Rule) (p : Product) : Evaluation where
  report := {
    rulesEvaluated := rs.length
    matchedRules := (firedRules rs p).map Rule.index
    diagnostics := rs.filterMap (Rule.snapshotDiagnostic? p)
    trace := if tracing then rs.map fun r => (r.visit p).shown else [] }
  product := snapshotProduct rs p

/-! ## 2. One rule -/

-- What is reported about the visit of a rule is what the snapshot reports about the rule.
theorem Rule.diagnostic?_visit (r : Rule) (p : Product) :
    (r.visit p).diagnostic? = r.snapshotDiagnostic? p := by
  obtain ⟨i, c, a⟩ := r
  unfold visit judge snapshotDiagnostic? Visit.diagnostic?
  -- the condition decides first; only where it is known and holds does the action count
  cases c with
  | unknown tag => rfl
  | stateIs state =>
    cases hh : (Condition.stateIs state).holds p <;> cases a <;> simp [hh, Condition.isKnown,
      Condition.unknownTag?, Action.isKnown, Action.unknownTag?]
  | creditScoreAtLeast least =>
    cases hh : (Condition.creditScoreAtLeast least).holds p <;> cases a <;>
      simp [hh, Condition.isKnown, Condition.unknownTag?, Action.isKnown, Action.unknownTag?]
  | nameIs name =>
    cases hh : (Condition.nameIs name).holds p <;> cases a <;> simp [hh, Condition.isKnown,
      Condition.unknownTag?, Action.isKnown, Action.unknownTag?]

-- A visit is a match if and only if its rule fires.
theorem Rule.matched?_visit (r : Rule) (p : Product) :
    (r.visit p).matched? = if r.fires p then some r.index else none := by
  unfold visit judge fires Visit.matched?
  cases r.condition.isKnown <;> cases r.condition.holds p <;> cases r.action.isKnown <;> rfl

-- A rule changes the product only if it fires, and then by its action. An unknown action, which is
-- never applied, would change nothing.
theorem Rule.after_judge (r : Rule) (p : Product) :
    r.after (r.judge p) p = if r.fires p then r.action.apply p else p := by
  unfold judge fires after
  cases hc : r.condition.isKnown <;> cases hh : r.condition.holds p <;> simp
  cases ha : r.action with
  | unknown tag => rfl
  | disqualify => rfl
  | adjustRate way amount => rfl

/-- What a snapshot reports about a rule is about its condition if that is unknown, and otherwise
about its action. -/
theorem Rule.snapshotDiagnostic?_eq (r : Rule) (p : Product) :
    r.snapshotDiagnostic? p =
      (r.condition.unknownTag?.map (.unknownCondition r.index)).or
        (if r.condition.holds p then r.action.unknownTag?.map (.unknownAction r.index)
        else none) := by
  obtain ⟨i, c, a⟩ := r
  cases c with
  | unknown tag => rfl
  | stateIs state =>
    cases a with
    | unknown tag => rfl
    | _ => exact (ite_self _).symm
  | creditScoreAtLeast least =>
    cases a with
    | unknown tag => rfl
    | _ => exact (ite_self _).symm
  | nameIs name =>
    cases a with
    | unknown tag => rfl
    | _ => exact (ite_self _).symm

theorem Condition.eq_of_unknownTag? {c : Condition} {tag : String} (h : c.unknownTag? = some tag) :
    c = .unknown tag := by
  cases c with
  | unknown _ => rw [Option.some.inj h]
  | _ => injection h

theorem Action.eq_of_unknownTag? {a : Action} {tag : String} (h : a.unknownTag? = some tag) :
    a = .unknown tag := by
  cases a with
  | unknown _ => rw [Option.some.inj h]
  | _ => injection h

/-- A diagnostic about a rule is about its unknown condition, or about its unknown action when it
fires. -/
theorem Rule.snapshotDiagnostic?_cases {r : Rule} {p : Product} {d : Diagnostic}
    (h : r.snapshotDiagnostic? p = some d) :
    (∃ tag, d = .unknownCondition r.index tag ∧ r.condition = .unknown tag) ∨
      ∃ tag, d = .unknownAction r.index tag ∧ r.action = .unknown tag ∧ r.fires p = true := by
  rw [snapshotDiagnostic?_eq, Option.or_eq_some_iff] at h
  rcases h with h | ⟨hknown, h⟩
  · obtain ⟨tag, htag, hd⟩ := Option.map_eq_some_iff.mp h
    exact .inl ⟨tag, hd.symm, Condition.eq_of_unknownTag? htag⟩
  · split at h
    · obtain ⟨tag, htag, hd⟩ := Option.map_eq_some_iff.mp h
      have hfires : r.fires p = true := by
        rw [fires, Condition.isKnown, Option.map_eq_none_iff.mp hknown, Option.isNone_none,
          Bool.true_and]
        assumption
      exact .inr ⟨tag, hd.symm, Action.eq_of_unknownTag? htag, hfires⟩
    · injection h

theorem firedRules_congr (rs : List Rule) {p q : Product} (h : p.AlikeForConditions q) :
    firedRules rs p = firedRules rs q := by
  unfold firedRules
  congr 1
  funext r
  rw [Rule.fires, Rule.fires, r.condition.holds_congr h]

theorem firedRules_cons (r : Rule) (rs : List Rule) (p : Product) :
    firedRules (r :: rs) p = if r.fires p then r :: firedRules rs p else firedRules rs p := by
  unfold firedRules
  rw [List.filter_cons]

/-! ## 3. All rules -/

-- Applying rules one after another changes the product as the snapshot does.
theorem visitAll_snd (rs : List Rule) (p : Product) :
    (visitAll rs p).2 = snapshotProduct rs p := by
  induction rs generalizing p with
  | nil =>
    rw [snapshotProduct]
    simp [firedRules]
  | cons r rs ih =>
    -- the later rules see a changed product, on which the same rules fire
    have hfired : firedRules rs (r.after (r.judge p) p) = firedRules rs p :=
      firedRules_congr rs (r.after_alike (r.judge p) p)
    rw [visitAll_cons_snd, ih]
    unfold snapshotProduct
    rw [hfired, firedRules_cons, r.after_judge p]
    by_cases hf : r.fires p = true
    · simp only [hf, ↓reduceIte, List.filterMap_cons, List.any_cons]
      cases r.action with
      | disqualify => simp [Action.apply, Action.delta?, Action.disqualifies]
      | adjustRate way amount => simp [Action.apply, Action.delta?, Action.disqualifies]
      | unknown tag => simp [Action.delta?, Action.disqualifies]
    · simp [hf]

-- The rules that match are those that fire.
theorem filterMap_matched?_visit (rs : List Rule) (p : Product) :
    (rs.map (Rule.visit p)).filterMap Visit.matched? = (firedRules rs p).map Rule.index := by
  rw [List.filterMap_map, firedRules, ← List.filterMap_eq_map, List.filterMap_filter]
  congr 1
  funext r
  exact r.matched?_visit p

theorem filterMap_diagnostic?_visit (rs : List Rule) (p : Product) :
    (rs.map (Rule.visit p)).filterMap Visit.diagnostic? =
      rs.filterMap (Rule.snapshotDiagnostic? p) := by
  rw [List.filterMap_map]
  congr 1
  funext r
  exact r.diagnostic?_visit p

/-! ## 4. What an evaluation comes to -/

namespace RuleSet

variable (set : RuleSet) (tracing : Bool) (p : Product)

theorem product_evaluate :
    (evaluate tracing (some set) p).value.product = snapshotProduct set.rules p := by
  rw [evaluate_value, visitAll_snd]

theorem matchedRules_evaluate :
    (evaluate tracing (some set) p).value.report.matchedRules =
      (firedRules set.rules p).map Rule.index := by
  rw [evaluate_value]
  exact filterMap_matched?_visit set.rules p

theorem diagnostics_evaluate :
    (evaluate tracing (some set) p).value.report.diagnostics =
      set.rules.filterMap (Rule.snapshotDiagnostic? p) := by
  rw [evaluate_value]
  exact filterMap_diagnostic?_visit set.rules p

end RuleSet

/-- **Sequential evaluation is snapshot evaluation.**  Whatever rules there are, rules that are
applied one after another, each judged on the product as it then is, leave the same product and
the same report as the two phases that look at the given product only. -/
theorem evaluate_eq_snapshotEvaluation (tracing : Bool) (rs : List Rule) (p : Product) :
    (evaluate tracing (some { rules := rs }) p).value = snapshotEvaluation tracing rs p := by
  rw [evaluate_value, visitAll_snd, snapshotEvaluation, Report.ofVisits, filterMap_matched?_visit,
    filterMap_diagnostic?_visit, List.length_map, List.map_map]
  rfl

end LoanPricing
