import LoanPricing.Proofs.Rules.Compile
import LoanPricing.Proofs.Rules.Visits
import LoanPricing.Proofs.Rules.Vocabulary

/-!
# Tags — records read anew at every visit

Here records are applied to a product without ever being compiled. The reader goes over them with
one running state, looks at the two tags of a record each time it comes to it, asks its question of
the product as it then is, and changes the product at once. The main statement is that compiling
the records and evaluating the compiled rules comes to the same product and the same report.
-/

namespace LoanPricing

/-! ## 1. The reader of tags -/

/-- How far a reading of records has come: the product as it now is, and the report so far. -/
structure TagReading where
  product : Product
  rulesEvaluated : Nat
  matchedRules : List Nat
  diagnostics : List Diagnostic
  deriving DecidableEq, Repr

namespace TagReading

/-- The reading of a product before the first record. -/
def start (p : Product) : TagReading where
  product := p
  rulesEvaluated := 0
  matchedRules := []
  diagnostics := []

/-- The answer to the question that a condition tag asks of a product; none for an unknown tag. -/
def ask (tag : String) (p : Product) : Option Bool :=
  if Text.sameIgnoringCase tag "florida" then some (Text.sameIgnoringCase p.state "florida")
  else if Text.sameIgnoringCase tag "creditscore720" then some (720 ≤ p.creditScore)
  else if Text.sameIgnoringCase tag "productname7-1arm" then
    some (Text.sameIgnoringCase p.name "7-1 arm")
  else none

/-- The product after what an action tag does with an amount; none for an unknown tag. -/
def act (tag : String) (value : Float) (p : Product) : Option Product :=
  if Text.sameIgnoringCase tag "disqualify" then some { p with disqualified := true }
  else if Text.sameIgnoringCase tag "reduceinterest" then
    some { p with interestRate := p.interestRate + -value }
  else if Text.sameIgnoringCase tag "increaseinterest" then
    some { p with interestRate := p.interestRate + value }
  else none

/-- The reading after one more record, which stands at place `i`. -/
def visit (i : Nat) (record : RuleRecord) (t : TagReading) : TagReading :=
  let t := { t with rulesEvaluated := t.rulesEvaluated + 1 }
  match ask record.condition t.product with
  | none => { t with diagnostics := t.diagnostics ++ [.unknownCondition i record.condition] }
  | some false => t
  | some true =>
    let t := { t with matchedRules := t.matchedRules ++ [i] }
    match act record.action record.value t.product with
    | none => { t with diagnostics := t.diagnostics ++ [.unknownAction i record.action] }
    | some p => { t with product := p }

/-- The reading after more records, numbered from `i`. -/
def visitFrom (i : Nat) : List RuleRecord → TagReading → TagReading
  | [], t => t
  | record :: records, t => visitFrom (i + 1) records (visit i record t)

/-! ## 2. Reading one record -/

section

variable {i : Nat} {record : RuleRecord} {t : TagReading}

theorem visit_of_ask_eq_none (hask : ask record.condition t.product = none) :
    visit i record t =
      { t with
        rulesEvaluated := t.rulesEvaluated + 1
        diagnostics := t.diagnostics ++ [.unknownCondition i record.condition] } := by
  simp [visit, hask]

theorem visit_of_ask_eq_false (hask : ask record.condition t.product = some false) :
    visit i record t = { t with rulesEvaluated := t.rulesEvaluated + 1 } := by
  simp [visit, hask]

theorem visit_of_act_eq_none (hask : ask record.condition t.product = some true)
    (hact : act record.action record.value t.product = none) :
    visit i record t =
      { t with
        rulesEvaluated := t.rulesEvaluated + 1
        matchedRules := t.matchedRules ++ [i]
        diagnostics := t.diagnostics ++ [.unknownAction i record.action] } := by
  simp [visit, hask, hact]

theorem visit_of_act_eq_some {p : Product} (hask : ask record.condition t.product = some true)
    (hact : act record.action record.value t.product = some p) :
    visit i record t =
      { t with
        product := p
        rulesEvaluated := t.rulesEvaluated + 1
        matchedRules := t.matchedRules ++ [i] } := by
  simp [visit, hask, hact]

end

/-! ## 3. Tags and what they compile to -/

-- Asking by the tag asks the compiled condition, if it is a known one; an unknown one keeps the tag
-- as it was written.
theorem ask_eq (tag : String) (p : Product) :
    (ask tag p = none ∧ Condition.ofTag tag = .unknown tag) ∨
      (ask tag p = some ((Condition.ofTag tag).holds p) ∧ (Condition.ofTag tag).isKnown = true) := by
  rw [ask, Condition.ofTag_eq]
  split
  · exact .inr ⟨rfl, rfl⟩
  split
  · exact .inr ⟨rfl, rfl⟩
  split
  · exact .inr ⟨rfl, rfl⟩
  exact .inl ⟨rfl, rfl⟩

-- Acting by the tag is the compiled action, if it is a known one; an unknown one keeps the tag as
-- it was written.
theorem act_eq (tag : String) (value : Float) (p : Product) :
    (act tag value p = none ∧ Action.ofTag tag value = .unknown tag) ∨
      (act tag value p = some ((Action.ofTag tag value).apply p) ∧
        (Action.ofTag tag value).isKnown = true) := by
  rw [act, Action.ofTag_eq]
  split
  · exact .inr ⟨rfl, rfl⟩
  split
  · exact .inr ⟨rfl, rfl⟩
  split
  · exact .inr ⟨rfl, rfl⟩
  exact .inl ⟨rfl, rfl⟩

theorem act_eq_none_iff {tag : String} {value : Float} {p : Product} :
    act tag value p = none ↔ (Action.ofTag tag value).isKnown = false := by
  rcases act_eq tag value p with ⟨hact, ha⟩ | ⟨hact, ha⟩
  · simp [hact, ha, Action.isKnown]
  · simp [hact, ha]

/-! ## 4. The simulation -/

/-- The reading with the visit of a compiled rule added. -/
def extend (t : TagReading) (v : Visit) : TagReading where
  product := v.rule.after v.verdict t.product
  rulesEvaluated := t.rulesEvaluated + 1
  matchedRules := t.matchedRules ++ v.matched?.toList
  diagnostics := t.diagnostics ++ v.diagnostic?.toList

/-- One step: reading a record adds the visit of its rule. -/
theorem visit_eq_extend (i : Nat) (record : RuleRecord) (t : TagReading) :
    visit i record t = t.extend ((record.rule i).visit t.product) := by
  rcases ask_eq record.condition t.product with ⟨hask, hc⟩ | ⟨hask, hc⟩
  · rw [visit_of_ask_eq_none hask,
      Rule.visit_of_unknownCondition (by rw [RuleRecord.rule_condition, hc]; rfl)]
    simp [extend, Visit.matched?, Verdict.isMatch, Visit.diagnostic?, Rule.after, hc]
  -- the condition is known: the product of the moment decides whether the action counts
  cases hh : (Condition.ofTag record.condition).holds t.product with
  | false =>
    rw [hh] at hask
    rw [visit_of_ask_eq_false hask, Rule.visit_of_not_holds hc hh]
    simp [extend, Visit.matched?, Verdict.isMatch, Visit.diagnostic?, Rule.after]
  | true =>
    rw [hh] at hask
    rcases act_eq record.action record.value t.product with ⟨hact, ha⟩ | ⟨hact, ha⟩
    · rw [visit_of_act_eq_none hask hact,
        Rule.visit_of_unknownAction hc hh (by rw [RuleRecord.rule_action, ha]; rfl)]
      simp [extend, Visit.matched?, Verdict.isMatch, Visit.diagnostic?, Rule.after, ha]
    · rw [visit_of_act_eq_some hask hact, Rule.visit_of_known hc hh ha]
      simp [extend, Visit.matched?, Verdict.isMatch, Visit.diagnostic?, Rule.after]

private theorem filterMap_cons_eq {α β : Type} (f : α → Option β) (a : α) (as : List α) :
    (a :: as).filterMap f = (f a).toList ++ as.filterMap f := by
  rw [List.filterMap_cons]
  cases f a <;> rfl

/-- A run: reading records adds the visits of their rules to what was there. -/
theorem visitFrom_eq (i : Nat) (records : List RuleRecord) (t : TagReading) :
    visitFrom i records t =
      { product := (visitAll (RuleRecord.rulesFrom i records) t.product).2
        rulesEvaluated := t.rulesEvaluated + records.length
        matchedRules := t.matchedRules ++
          (visitAll (RuleRecord.rulesFrom i records) t.product).1.filterMap Visit.matched?
        diagnostics := t.diagnostics ++
          (visitAll (RuleRecord.rulesFrom i records) t.product).1.filterMap Visit.diagnostic? } := by
  induction records generalizing i t with
  | nil => simp [visitFrom]
  | cons record records ih =>
    rw [visitFrom, visit_eq_extend, ih, RuleRecord.rulesFrom_cons, visitAll_cons_fst,
      visitAll_cons_snd, filterMap_cons_eq, filterMap_cons_eq, List.length_cons]
    simp only [extend, List.append_assoc, TagReading.mk.injEq]
    exact ⟨rfl, by omega, rfl, rfl⟩

end TagReading

/-- **Compiling first changes nothing.**  Records whose amounts are finite compile in lenient mode,
and evaluating the compiled rules leaves the product and the report that reading the tags of the
records anew at every visit leaves. -/
theorem evaluate_compiled_eq_visitFrom (records : List RuleRecord)
    (hfinite : ∀ record ∈ records, record.value.isFinite = true) (tracing : Bool) (p : Product) :
    ∃ set, (RuleSet.compile .lenient records).value = .ok set ∧
      let e := (evaluate tracing (some set) p).value
      let t := TagReading.visitFrom 0 records (.start p)
      e.product = t.product ∧ e.report.rulesEvaluated = t.rulesEvaluated ∧
        e.report.matchedRules = t.matchedRules ∧ e.report.diagnostics = t.diagnostics := by
  refine ⟨{ rules := RuleRecord.rulesFrom 0 records }, ?_, ?_⟩
  · exact RuleSet.compile_lenient_of_isFinite hfinite
  · rw [TagReading.visitFrom_eq, evaluate_value, ← visitAll_fst]
    refine ⟨rfl, ?_, rfl, rfl⟩
    show (visitAll (RuleRecord.rulesFrom 0 records) p).1.length = 0 + records.length
    rw [visitAll_fst, List.length_map, RuleRecord.length_rulesFrom, Nat.zero_add]

/-- A tag in capitals, and a tag outside the vocabulary on either side. -/
theorem evaluate_compiled_floridaTexas :
    let records : List RuleRecord := [⟨"FLORIDA", "Waive", 0.25⟩, ⟨"Texas", "Disqualify", 0⟩]
    let p : Product :=
      { name := "7-1 ARM", interestRate := 5, state := "Florida", creditScore := 700 }
    (∀ record ∈ records, record.value.isFinite = true) ∧
      ∃ set, (RuleSet.compile .lenient records).value = .ok set ∧
        let e := (evaluate true (some set) p).value
        e.product = p ∧ e.report.matchedRules = [0] ∧
          e.report.diagnostics = [.unknownAction 0 "Waive", .unknownCondition 1 "Texas"] := by
  intro records p
  have hfinite : ∀ record ∈ records, record.value.isFinite = true := by decide
  obtain ⟨set, hcompile, hproduct, -, hmatched, hdiagnostics⟩ :=
    evaluate_compiled_eq_visitFrom records hfinite true p
  have hsmall : Text.lower "florida" = "florida" := by decide +kernel
  have htag : Text.sameIgnoringCase "FLORIDA" "florida" = true := by
    rw [Text.sameIgnoringCase_iff, hsmall]
    decide +kernel
  have hstate : Text.sameIgnoringCase "Florida" "florida" = true := by
    rw [Text.sameIgnoringCase_iff, hsmall]
    decide +kernel
  have hflorida : TagReading.ask "FLORIDA" p = some true := by
    rw [TagReading.ask, if_pos htag, hstate]
  have htexas : TagReading.ask "Texas" p = none := by decide +kernel
  have hwaive : TagReading.act "Waive" 0.25 p = none :=
    TagReading.act_eq_none_iff.mpr (by decide +kernel)
  have hread : TagReading.visitFrom 0 records (.start p) =
      { product := p, rulesEvaluated := 2, matchedRules := [0]
        diagnostics := [.unknownAction 0 "Waive", .unknownCondition 1 "Texas"] } := by
    rw [TagReading.visitFrom, TagReading.visit_of_act_eq_none hflorida hwaive,
      TagReading.visitFrom, TagReading.visit_of_ask_eq_none htexas]
    rfl
  rw [hread] at hproduct hmatched hdiagnostics
  exact ⟨hfinite, set, hcompile, hproduct, hmatched, hdiagnostics⟩

end LoanPricing
