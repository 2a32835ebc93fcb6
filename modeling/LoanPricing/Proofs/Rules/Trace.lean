import LoanPricing.Proofs.Rules.Snapshot

/-!
# Traces — an evaluation told by its lines

A traced evaluation writes one line for each rule. What stands after the last arrow of a line is the
outcome of the rule, whatever the tags of the rule say, with arrows or line feeds in them. The main
statement is that the rules and these outcomes tell everything else: which rules matched, what is
diagnosed about which rules, and which actions made the product what it is.
-/

namespace LoanPricing

/-! ## 1. The outcome in a line -/

/-- What stands before the outcome in a line of a trace. -/
def arrow : List Char := " => ".toList

/-- What stands after the last arrow. -/
def afterLastArrow? : List Char → Option (List Char)
  | [] => none
  | c :: cs =>
    (afterLastArrow? cs).or
      (if arrow.isPrefixOf (c :: cs) then some ((c :: cs).drop arrow.length) else none)

/-- The outcome that a line of a trace tells: what stands after its last arrow. -/
def outcome (line : String) : String :=
  String.ofList ((afterLastArrow? line.toList).getD [])

-- An arrow further on is a later one, so that nothing before the last arrow counts.
theorem afterLastArrow?_append {xs ys zs : List Char} (h : afterLastArrow? ys = some zs) :
    afterLastArrow? (xs ++ ys) = some zs := by
  induction xs with
  | nil => exact h
  | cons c xs ih => rw [List.cons_append, afterLastArrow?, ih, Option.some_or]

-- No outcome has an arrow in it, nor is there one that begins inside the arrow before it.
theorem Verdict.afterLastArrow?_shown (v : Verdict) :
    afterLastArrow? (arrow ++ v.shown.toList) = some v.shown.toList := by
  cases v <;> decide

/-- The line of a visit tells its verdict. -/
theorem Visit.outcome_shown (v : Visit) : outcome v.shown = v.verdict.shown := by
  have hline : v.shown.toList =
      ("rules[" ++ String.ofList (Text.ofNat v.rule.index) ++ "]: if " ++ v.rule.condition.shown ++
        " then " ++ v.rule.action.shown).toList ++ (arrow ++ v.verdict.shown.toList) := by
    unfold shown arrow
    simp only [String.toList_append, List.append_assoc]
  rw [outcome, hline, afterLastArrow?_append v.verdict.afterLastArrow?_shown, Option.getD_some,
    String.ofList_toList]

-- An outcome in a tag is none of the line.
example : outcome "rules[0]: if unknown(a => MATCHED, APPLIED) then disqualify => SKIPPED" =
    "SKIPPED" := by decide +kernel

/-! ## 2. What outcomes tell -/

/-- Rules, each with the outcome that its line tells. -/
def told (rs : List Rule) (lines : List String) : List (Rule × String) :=
  rs.zip (lines.map outcome)

/-- What is diagnosed about a rule with an outcome. -/
def toldDiagnostic? (t : Rule × String) : Option Diagnostic :=
  if t.2 = "SKIPPED" then t.1.condition.unknownTag?.map (.unknownCondition t.1.index)
  else if t.2 = "MATCHED, NO_EFFECT" then t.1.action.unknownTag?.map (.unknownAction t.1.index)
  else none

/-- What actions make of a product: one sum of their changes to the rate, from the left, and the
disqualification. -/
def afterActions (actions : List Action) (p : Product) : Product where
  name := p.name
  interestRate := (actions.filterMap Action.delta?).foldl (· + ·) p.interestRate
  state := p.state
  creditScore := p.creditScore
  disqualified := p.disqualified || actions.any Action.disqualifies

/-- Performing actions one after another. -/
theorem foldl_apply (actions : List Action) (p : Product) :
    actions.foldl (fun q a => a.apply q) p = afterActions actions p := by
  induction actions generalizing p with
  | nil => simp [afterActions]
  | cons a actions ih =>
    rw [List.foldl_cons, ih, afterActions, afterActions, List.filterMap_cons, List.any_cons]
    cases a with
    | disqualify => simp [Action.apply, Action.delta?, Action.disqualifies]
    | adjustRate way amount => simp [Action.apply, Action.delta?, Action.disqualifies]
    | unknown tag => simp [Action.delta?, Action.disqualifies]

/-- The evaluation of a product that rules and the lines of a trace tell of. The rules that matched
are those whose outcome says so, and of these the actions of the applied ones are performed. -/
def retold (rs : List Rule) (lines : List String) (p : Product) : Evaluation where
  report := {
    rulesEvaluated := lines.length
    matchedRules := ((told rs lines).filter fun t => "MATCHED,".toList.isPrefixOf t.2.toList).map
      fun t => t.1.index
    diagnostics := (told rs lines).filterMap toldDiagnostic?
    trace := lines }
  product := afterActions
    (((told rs lines).filter fun t => t.2 = "MATCHED, APPLIED").map fun t => t.1.action) p

/-- The lines of the visits tell the verdicts of the rules. -/
theorem told_visits (rs : List Rule) (p : Product) :
    told rs ((rs.map (Rule.visit p)).map Visit.shown) = rs.map fun r => (r, (r.judge p).shown) := by
  have houtcomes : ((rs.map (Rule.visit p)).map Visit.shown).map outcome =
      rs.map fun r => (r.judge p).shown := by
    simp only [List.map_map, Function.comp_def, Visit.outcome_shown]
    rfl
  calc told rs ((rs.map (Rule.visit p)).map Visit.shown)
    _ = (rs.map id).zip (rs.map fun r => (r.judge p).shown) := by rw [told, houtcomes, List.map_id]
    _ = rs.map fun r => (r, (r.judge p).shown) := List.zip_map'

theorem Verdict.isPrefixOf_shown (v : Verdict) :
    "MATCHED,".toList.isPrefixOf v.shown.toList = v.isMatch := by
  cases v <;> decide

theorem Verdict.shown_eq_applied_iff {v : Verdict} :
    v.shown = "MATCHED, APPLIED" ↔ v = .applied := by
  cases v <;> decide

theorem toldDiagnostic?_shown (v : Visit) :
    toldDiagnostic? (v.rule, v.verdict.shown) = v.diagnostic? := by
  obtain ⟨r, v⟩ := v
  cases v <;> rfl

/-- What a verdict says about its rule and the product. -/
theorem Rule.judge_cases (r : Rule) (p : Product) :
    (r.judge p = .skipped ∧ r.condition.isKnown = false) ∨
      (r.judge p = .notMatched ∧ r.condition.isKnown = true ∧ r.condition.holds p = false) ∨
      (r.judge p = .noEffect ∧ r.condition.isKnown = true ∧ r.condition.holds p = true ∧
        r.action.isKnown = false) ∨
      (r.judge p = .applied ∧ r.condition.isKnown = true ∧ r.condition.holds p = true ∧
        r.action.isKnown = true) := by
  unfold judge
  cases r.condition.isKnown <;> cases r.condition.holds p <;> cases r.action.isKnown <;> simp

/-- What an outcome says to be unknown is unknown. -/
theorem Rule.isKnown_of_shown (r : Rule) (p : Product) :
    ((r.judge p).shown = "SKIPPED" → r.condition.isKnown = false) ∧
      ((r.judge p).shown = "MATCHED, NO_EFFECT" → r.action.isKnown = false) := by
  rcases r.judge_cases p with ⟨hv, hc⟩ | ⟨hv, -⟩ | ⟨hv, -, -, ha⟩ | ⟨hv, -⟩ <;> rw [hv]
  · exact ⟨fun _ => hc, fun h => absurd h (by decide)⟩
  · exact ⟨fun h => absurd h (by decide), fun h => absurd h (by decide)⟩
  · exact ⟨fun h => absurd h (by decide), fun _ => ha⟩
  · exact ⟨fun h => absurd h (by decide), fun h => absurd h (by decide)⟩

/-! ## 3. What tracing adds -/

/-- An evaluation without its trace. -/
def Evaluation.untraced (e : Evaluation) : Evaluation :=
  { e with report := { e.report with trace := [] } }

/-- Tracing adds the lines and nothing else, neither to the result nor to the log. -/
theorem evaluate_untraced (rules : Option RuleSet) (p : Product) :
    evaluate false rules p =
      { entries := (evaluate true rules p).entries
        value := (evaluate true rules p).value.untraced } := by
  cases rules <;> rfl

/-! ## 4. Everything is told -/

/-- The rules that are applied make the product, each in its turn. -/
theorem visitAll_snd_eq_foldl (rs : List Rule) (p : Product) :
    (visitAll rs p).2 =
      (rs.filter fun r => r.judge p = .applied).foldl (fun q r => r.action.apply q) p := by
  induction rs generalizing p with
  | nil => rfl
  | cons r rs ih =>
    -- the later rules see a changed product, but are judged as before
    have hjudge : ∀ r' : Rule, r'.judge (r.after (r.judge p) p) = r'.judge p :=
      fun r' => r'.judge_congr (r.after_alike (r.judge p) p)
    rw [visitAll_cons_snd, ih, List.filter_cons]
    simp only [hjudge]
    by_cases happlied : r.judge p = .applied
    · rw [if_pos (decide_eq_true happlied), List.foldl_cons, happlied]
      rfl
    · have hafter : r.after (r.judge p) p = p := by
        cases hv : r.judge p with
        | applied => exact absurd hv happlied
        | _ => rfl
      rw [if_neg (by simpa using happlied), hafter]

/-- The visits of rules are retold by their lines. -/
theorem retold_visits (rs : List Rule) (p : Product) :
    retold rs ((rs.map (Rule.visit p)).map Visit.shown) p =
      { report := .ofVisits true (rs.map (Rule.visit p)), product := (visitAll rs p).2 } := by
  have hmatched : (((rs.map fun r => (r, (r.judge p).shown)).filter fun t =>
      "MATCHED,".toList.isPrefixOf t.2.toList).map fun t => t.1.index) =
        (rs.map (Rule.visit p)).filterMap Visit.matched? := by
    rw [List.filter_map, List.map_map, List.filterMap_map, ← List.filterMap_eq_map,
      List.filterMap_filter]
    congr 1
    funext r
    simp only [Function.comp_apply, Verdict.isPrefixOf_shown]
    rfl
  have hdiagnostics : (rs.map fun r => (r, (r.judge p).shown)).filterMap toldDiagnostic? =
      (rs.map (Rule.visit p)).filterMap Visit.diagnostic? := by
    rw [List.filterMap_map, List.filterMap_map]
    congr 1
    funext r
    exact toldDiagnostic?_shown (r.visit p)
  have hproduct : afterActions (((rs.map fun r => (r, (r.judge p).shown)).filter fun t =>
      t.2 = "MATCHED, APPLIED").map fun t => t.1.action) p = (visitAll rs p).2 := by
    rw [← foldl_apply, visitAll_snd_eq_foldl, List.filter_map, List.map_map, List.foldl_map]
    simp only [Function.comp_def, Verdict.shown_eq_applied_iff]
  rw [retold, told_visits, hmatched, hdiagnostics, hproduct, List.length_map, Report.ofVisits]
  rfl

/-- **A trace tells everything.** A traced evaluation by a rule set writes one line for each rule,
in order, and each line tells an outcome. Rules with these outcomes, and the product that was given,
make up the evaluation again: the rules that matched, what is diagnosed about the rules that were
skipped or had no effect, all of which have an unknown tag there, and the product, on which the
actions of the applied rules have been performed in order. Without tracing there are no lines and
all else is the same. -/
theorem evaluate_eq_retold (set : RuleSet) (p : Product) :
    let e := (evaluate true (some set) p).value
    (∃ verdict : Rule → Verdict, e.report.trace =
      set.rules.map fun r => Visit.shown { rule := r, verdict := verdict r }) ∧
    e = retold set.rules e.report.trace p ∧
    (∀ t ∈ told set.rules e.report.trace,
      (t.2 = "SKIPPED" → t.1.condition.isKnown = false) ∧
      (t.2 = "MATCHED, NO_EFFECT" → t.1.action.isKnown = false)) ∧
    (evaluate false (some set) p).value =
      { report := { e.report with trace := [] }, product := e.product } := by
  intro e
  have htrace : e.report.trace = (set.rules.map (Rule.visit p)).map Visit.shown :=
    congrArg (fun e : Evaluation => e.report.trace) (evaluate_value true set p)
  refine ⟨⟨fun r => r.judge p, ?_⟩, ?_, ?_, by rw [evaluate_untraced]; rfl⟩
  · rw [htrace, List.map_map]
    rfl
  · rw [htrace, retold_visits]
    exact evaluate_value true set p
  · rw [htrace, told_visits, List.forall_mem_map]
    exact fun r _ => r.isKnown_of_shown p

end LoanPricing
