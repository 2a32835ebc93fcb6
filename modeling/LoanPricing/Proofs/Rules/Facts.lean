import LoanPricing.Proofs.Rules.Compile
import LoanPricing.Proofs.Rules.Snapshot
import LoanPricing.Proofs.Rules.Vocabulary

/-!
# Facts — what compiled rules see of a product

Every known tag asks for one of three facts about a product, however the tag is spelled. A compiled
rule sees nothing else: not the rate, not the disqualification, and of the name, the state and the
credit score no more than these facts. The main statement is that products with the same facts have
the same report, and that what happens to the one happens to the other.
-/

namespace LoanPricing

/-! ## 1. The facts that tags ask for -/

structure Product.Facts where
  inFlorida : Bool
  scores720 : Bool
  isSevenOneArm : Bool
  deriving DecidableEq, Repr

/-- The answers of a product to all that the vocabulary of conditions can ask. -/
def Product.facts (p : Product) : Facts where
  inFlorida := Text.sameIgnoringCase p.state "florida"
  scores720 := 720 ≤ p.creditScore
  isSevenOneArm := Text.sameIgnoringCase p.name "7-1 arm"

theorem Product.facts_congr {p q : Product} (h : p.AlikeForConditions q) : p.facts = q.facts := by
  rw [facts, facts, h.state, h.creditScore, h.name]

/-- A condition that a tag names is answered by the facts. -/
theorem Condition.holds_ofTag_congr (tag : String) {p q : Product} (h : p.facts = q.facts) :
    (ofTag tag).holds p = (ofTag tag).holds q := by
  rcases ofTag_cases tag with htag | htag | htag | htag
  · rw [htag]
    exact congrArg Product.Facts.inFlorida h
  · rw [htag]
    exact congrArg Product.Facts.scores720 h
  · rw [htag]
    exact congrArg Product.Facts.isSevenOneArm h
  · rw [htag]
    rfl

/-! ## 2. Products that rules cannot tell apart -/

/-- Two products that give the same answers to all conditions of some rules. -/
def Product.AnswerAlike (rs : List Rule) (p q : Product) : Prop :=
  ∀ r ∈ rs, r.condition.holds p = r.condition.holds q

theorem RuleSet.answerAlike_of_compile {mode : Mode} {records : List RuleRecord} {set : RuleSet}
    (hcompile : (RuleSet.compile mode records).value = .ok set) {p q : Product}
    (h : p.facts = q.facts) : Product.AnswerAlike set.rules p q := by
  intro rule hrule
  obtain ⟨index, record, rfl⟩ := exists_rule_of_compile hcompile hrule
  exact Condition.holds_ofTag_congr record.condition h

namespace Product.AnswerAlike

variable {rs : List Rule} {p q : Product}

/-- Rules make the same visits to products that answer alike. -/
theorem map_visit (h : AnswerAlike rs p q) : rs.map (Rule.visit p) = rs.map (Rule.visit q) := by
  apply List.map_congr_left
  intro r hr
  rw [Rule.visit, Rule.visit, Rule.judge, Rule.judge, h r hr]

/-- The same rules fire on products that answer alike. -/
theorem firedRules (h : AnswerAlike rs p q) : firedRules rs p = firedRules rs q := by
  apply List.filter_congr
  intro r hr
  rw [Rule.fires, Rule.fires, h r hr]

end Product.AnswerAlike

/-! ## 3. Evaluations after evaluations -/

/-- The product after evaluations one after another, each by some rules or by none. -/
def Product.evaluatedBy (tracing : Bool) (sets : List (Option RuleSet)) (p : Product) : Product :=
  sets.foldl (fun p rules => (evaluate tracing rules p).value.product) p

theorem evaluate_alike (tracing : Bool) (rules : Option RuleSet) (p : Product) :
    (evaluate tracing rules p).value.product.AlikeForConditions p := by
  cases rules with
  | none => exact .refl p
  | some set =>
    rw [evaluate_value]
    exact visitAll_snd_alike set.rules p

-- However often a product is evaluated, its facts stay the same.
theorem Product.facts_evaluatedBy (tracing : Bool) (sets : List (Option RuleSet)) (p : Product) :
    (p.evaluatedBy tracing sets).facts = p.facts := by
  induction sets generalizing p with
  | nil => rfl
  | cons rules sets ih =>
    show ((evaluate tracing rules p).value.product.evaluatedBy tracing sets).facts = p.facts
    rw [ih]
    exact facts_congr (evaluate_alike tracing rules p)

/-- The report of compiled rules depends on the facts alone. -/
theorem RuleSet.report_congr {mode : Mode} {records : List RuleRecord} {set : RuleSet}
    (hcompile : (RuleSet.compile mode records).value = .ok set) (tracing : Bool) {p q : Product}
    (h : p.facts = q.facts) :
    (evaluate tracing (some set) p).value.report = (evaluate tracing (some set) q).value.report := by
  rw [evaluate_value, evaluate_value, (answerAlike_of_compile hcompile h).map_visit]

/-- **Compiled rules see a product through three facts.** Two products with the same facts, whatever
else they are, have the same report. They are disqualified by the same rules or by none, nothing but
the rate and the disqualification changes about either of them, and if they had the same rate they
have the same rate afterwards. The reports are the same also after other evaluations, of any number
and by any rules, and different ones for the two products. -/
theorem evaluate_facts {mode : Mode} {records : List RuleRecord} {set : RuleSet}
    (hcompile : (RuleSet.compile mode records).value = .ok set) {p q : Product}
    (hfacts : p.facts = q.facts) (tracing : Bool) :
    let e := (evaluate tracing (some set) p).value
    let e' := (evaluate tracing (some set) q).value
    e.report = e'.report ∧
      (∃ d, e.product.disqualified = (p.disqualified || d) ∧
        e'.product.disqualified = (q.disqualified || d)) ∧
      e.product.AlikeForConditions p ∧ e'.product.AlikeForConditions q ∧
      (p.interestRate = q.interestRate → e.product.interestRate = e'.product.interestRate) ∧
      ∀ before before' : List (Option RuleSet),
        (evaluate tracing (some set) (p.evaluatedBy tracing before)).value.report =
          (evaluate tracing (some set) (q.evaluatedBy tracing before')).value.report := by
  intro e e'
  have hproduct : e.product = snapshotProduct set.rules p := set.product_evaluate tracing p
  have hproduct' : e'.product = snapshotProduct set.rules q := set.product_evaluate tracing q
  have hfired : firedRules set.rules p = firedRules set.rules q :=
    (RuleSet.answerAlike_of_compile hcompile hfacts).firedRules
  refine ⟨RuleSet.report_congr hcompile tracing hfacts, ?_, evaluate_alike tracing _ p,
    evaluate_alike tracing _ q, ?_, ?_⟩
  · rw [hproduct, hproduct']
    exact ⟨(firedRules set.rules p).any fun r => r.action.disqualifies, rfl, by rw [hfired]; rfl⟩
  · intro hrate
    rw [hproduct, hproduct', snapshotProduct, snapshotProduct, hfired, hrate]
  · intro before before'
    apply RuleSet.report_congr hcompile tracing
    rw [Product.facts_evaluatedBy, Product.facts_evaluatedBy, hfacts]

/-- Two products that are spelled differently and have different credit scores, one of them
disqualified before. The second one has met the same rules already. -/
theorem evaluate_facts_spellings :
    let records : List RuleRecord :=
      [⟨"FLORIDA", "ReduceInterest", 0.5⟩, ⟨"CreditScore720", "Waive", 0⟩]
    let p : Product :=
      { name := "7-1 ARM", interestRate := 5, state := "Florida", creditScore := 720 }
    let q : Product :=
      { name := "7-1 arm", interestRate := 5, state := "FloridA", creditScore := 850
        disqualified := true }
    ∃ set, (RuleSet.compile .lenient records).value = .ok set ∧ p.facts = q.facts ∧
      let e := (evaluate true (some set) p).value
      let e' := (evaluate true (some set) q).value
      e.report = e'.report ∧ e.product.interestRate = e'.product.interestRate ∧
        e.report = (evaluate true (some set) (q.evaluatedBy true [some set, none])).value.report := by
  intro records p q
  have hcompile : (RuleSet.compile .lenient records).value =
      .ok { rules := RuleRecord.rulesFrom 0 records } :=
    RuleSet.compile_lenient_of_isFinite (by decide)
  have hsmall : Text.lower "florida" = "florida" := by decide +kernel
  have hname : Text.lower "7-1 arm" = "7-1 arm" := by decide +kernel
  have hp : p.facts = ⟨true, true, true⟩ := by
    rw [Product.facts, Text.sameIgnoringCase_of_lower (by decide +kernel) hsmall,
      Text.sameIgnoringCase_of_lower (by decide +kernel) hname]
    rfl
  have hq : q.facts = ⟨true, true, true⟩ := by
    rw [Product.facts, Text.sameIgnoringCase_of_lower (by decide +kernel) hsmall,
      Text.sameIgnoringCase_of_lower (by decide +kernel) hname]
    rfl
  have hfacts : p.facts = q.facts := hp.trans hq.symm
  obtain ⟨hreport, -, -, -, hrate, hagain⟩ := evaluate_facts hcompile hfacts true
  exact ⟨_, hcompile, hfacts, hreport, hrate rfl, hagain [] _⟩

end LoanPricing
