import LoanPricing.Proofs.Rules.FirstFault
import LoanPricing.Proofs.Rules.Snapshot

/-!
# Events — the log beside the results

Notices are made on the way, results come out at the end, and nothing in a result says which notices
were made. The main statement is that the two can be told from each other: compiling reports the
unknown tags of the records that it gets to see, loading adds one event about the whole set, and an
evaluation has one event for each of its diagnostics and then one with their number. An evaluation is
taken apart into its steps for this, each of which makes its notice before it is done with its rule.
-/

namespace LoanPricing

/-! ## 1. Events -/

namespace Log

/-- What is seen of a notice by those who only know the log. -/
structure Event where
  level : Level
  message : String
  fields : Fields
  deriving DecidableEq, Repr

def Notice.event (n : Notice) : Event where
  level := n.level
  message := n.message
  fields := n.fields

/-- An event about a tag of a rule. -/
def tagEvent (message : String) (rule : Nat) (tag : String) : Event where
  level := .debug
  message := message
  fields := [("rule_index", .count rule), ("tag", .text tag)]

namespace Logged

variable {α β : Type}

/-- The events on the way to a value, in order. -/
def events (x : Logged α) : List Event :=
  (notices x.entries).map Notice.event

@[simp] theorem events_pure (a : α) : (pure a : Logged α).events = [] := rfl

@[simp] theorem events_note (n : Notice) : (note n).events = [n.event] := rfl

@[simp] theorem events_bind (x : Logged α) (f : α → Logged β) :
    (x >>= f).events = x.events ++ (f x.value).events := by
  rw [events, entries_bind, notices_append, List.map_append]
  rfl

/-- Scopes are no events. -/
@[simp] theorem events_within (scope : Scope) (x : Logged α) : (within scope x).events = x.events := by
  show (notices ([.enter scope] ++ x.entries ++ [.leave scope])).map Notice.event = x.events
  rw [notices_append, notices_append]
  exact congrArg (List.map Notice.event) (List.append_nil _)

theorem mk_bind (entries : List Entry) (a : α) (f : α → Logged β) :
    ({ entries, value := a } >>= f) =
      { entries := entries ++ (f a).entries, value := (f a).value } := rfl

/-- A step after which there are no more events. -/
theorem events_bind_of_silent {x : Logged α} {f : α → Logged β} (h : ∀ a, (f a).events = []) :
    (x >>= f).events = x.events := by
  rw [events_bind, h, List.append_nil]

end Logged

end Log

open Log (Logged Event tagEvent)

/-! ## 2. Compiling -/

namespace RuleRecord

/-- The events about the unknown tags of a record, that of its condition first. -/
def tagEvents (index : Nat) (record : RuleRecord) : List Event :=
  (if Condition.IsUnknownTag record.condition then
      [tagEvent "Rule has unknown condition tag" index record.condition]
    else []) ++
  if Action.IsUnknownTag record.action then
    [tagEvent "Rule has unknown action tag" index record.action]
  else []

/-- The events about the unknown tags of records, numbered from `index`. -/
def tagEventsFrom (index : Nat) (records : List RuleRecord) : List Event :=
  (records.zipIdx index).flatMap fun numbered => numbered.1.tagEvents numbered.2

end RuleRecord

namespace Rule

theorem events_vet_strict (unknownTag : Option String) (error : String → RuleError)
    (notice : String → Log.Notice) : (vet .strict unknownTag error notice).events = [] := by
  cases unknownTag <;> rfl

theorem events_vet_lenient (unknownTag : Option String) (error : String → RuleError)
    (notice : String → Log.Notice) :
    (vet .lenient unknownTag error notice).events =
      (unknownTag.map fun tag => (notice tag).event).toList := by
  cases unknownTag <;> rfl

/-- Strict mode turns a tag away or has nothing to say about it. -/
theorem events_compile_strict (index : Nat) (record : RuleRecord) :
    (compile .strict index record).events = [] := by
  unfold compile
  split
  · rfl
  · rw [Logged.events_bind, events_vet_strict, List.nil_append]
    split
    · rfl
    · rw [Logged.events_bind, events_vet_strict, List.nil_append]
      split <;> rfl

/-- Lenient mode looks at the tags as soon as the amount is finite. -/
theorem events_compile_lenient (index : Nat) (record : RuleRecord) :
    (compile .lenient index record).events =
      if record.value.isFinite then record.tagEvents index else [] := by
  unfold compile
  by_cases hvalue : record.value.isFinite = true
  · have hok : ∀ unknownTag error notice, (vet .lenient unknownTag error notice).value = .ok () := by
      intro unknownTag error notice
      rw [vet_value]
      rfl
    rw [if_pos hvalue, hvalue, Bool.not_true, if_neg Bool.false_ne_true, Logged.events_bind,
      events_vet_lenient, hok]
    simp only
    rw [Logged.events_bind, events_vet_lenient, hok, Condition.unknownTag?_ofTag,
      Action.unknownTag?_ofTag, RuleRecord.tagEvents]
    simp only [Logged.events_pure, List.append_nil]
    congr 1 <;> split <;> rfl
  · rw [if_neg hvalue, eq_false_of_ne_true hvalue]
    rfl

theorem events_compileFrom_strict (index : Nat) (records : List RuleRecord) :
    (compileFrom .strict index records).events = [] := by
  induction records generalizing index with
  | nil => rfl
  | cons record records ih =>
    rw [compileFrom, Logged.events_bind, events_compile_strict, List.nil_append]
    split
    · rfl
    · rw [Logged.events_bind, ih, List.nil_append]
      split <;> rfl

/-- The first amount that is not finite ends the compilation before its record is looked at. -/
theorem events_compileFrom_lenient (index : Nat) (records : List RuleRecord) :
    (compileFrom .lenient index records).events =
      RuleRecord.tagEventsFrom index (records.takeWhile fun record => record.value.isFinite) := by
  induction records generalizing index with
  | nil => rfl
  | cons record records ih =>
    rw [compileFrom, Logged.events_bind, events_compile_lenient, compile_value]
    by_cases hvalue : record.value.isFinite = true
    · rw [RuleRecord.fault?_lenient_eq_none_iff.mpr hvalue, if_pos hvalue,
        List.takeWhile_cons, hvalue]
      simp only [orFault]
      rw [Logged.events_bind_of_silent, ih]
      · rfl
      · intro compiled
        cases compiled <;> rfl
    · obtain ⟨e, he⟩ : ∃ e, record.fault? .lenient index = some e :=
        Option.ne_none_iff_exists'.mp (mt RuleRecord.fault?_lenient_eq_none_iff.mp hvalue)
      rw [he, List.takeWhile_cons, if_neg hvalue, if_neg hvalue]
      rfl

end Rule

theorem RuleSet.events_compile (mode : Mode) (records : List RuleRecord) :
    (compile mode records).events = (Rule.compileFrom mode 0 records).events := by
  apply Logged.events_bind_of_silent
  intro compiled
  cases compiled <;> rfl

/-! ## 3. Loading -/

/-- The event about a rule set that has been loaded. -/
def RuleSet.loadedEvent (mode : Mode) (set : RuleSet) : Event where
  level := .info
  message := "Pricing rules loaded"
  fields := [("rules", .count set.size), ("unknown_tags", .count set.unknownTagCount),
    ("strict", .flag mode.isStrict)]

/-- A text of records has the events of their compilation, and one more if it loads. Any other text
has none. -/
theorem RuleSet.events_load (mode : Mode) (text : String) :
    (load mode text).events =
      ((RuleRecord.parseAll text).toOption.elim [] fun records => (compile mode records).events) ++
        ((load mode text).value.toOption.map (loadedEvent mode)).toList := by
  rw [load_value, load, Logged.events_within]
  cases RuleRecord.parseAll text with
  | error e => rfl
  | ok records =>
    simp only
    rw [Logged.events_bind]
    congr 1
    cases (compile mode records).value <;> rfl

/-! ## 4. Evaluating in steps -/

/-- How far the application of rules has come: the product as it now is, and the report so far. -/
structure Progress where
  product : Product
  report : Report
  deriving DecidableEq, Repr

namespace Progress

/-- One more rule with its verdict, in the trace if there is one. -/
def traced (tracing : Bool) (r : Rule) (v : Verdict) (s : Progress) : Progress :=
  let line := Visit.shown { rule := r, verdict := v }
  { s with report.trace := s.report.trace ++ if tracing then [line] else [] }

def counted (s : Progress) : Progress :=
  { s with report.rulesEvaluated := s.report.rulesEvaluated + 1 }

def matching (index : Nat) (s : Progress) : Progress :=
  { s with report.matchedRules := s.report.matchedRules ++ [index] }

/-- A diagnostic, and the notice about it at the same time. -/
def diagnosed (d : Diagnostic) (s : Progress) : Logged Progress := do
  Logged.note d.notice
  pure { s with report.diagnostics := s.report.diagnostics ++ [d] }

/-- The next rule is applied. -/
def perform (tracing : Bool) (r : Rule) (s : Progress) : Logged Progress :=
  let s := s.counted
  match r.condition.unknownTag? with
  | some tag => do
    let s ← s.diagnosed (.unknownCondition r.index tag)
    pure (s.traced tracing r .skipped)
  | none =>
    if !r.condition.holds s.product then pure (s.traced tracing r .notMatched)
    else
      let s := s.matching r.index
      match r.action.unknownTag? with
      | some tag => do
        let s ← s.diagnosed (.unknownAction r.index tag)
        pure (s.traced tracing r .noEffect)
      | none => pure ({ s with product := r.action.apply s.product }.traced tracing r .applied)

def performAll (tracing : Bool) : List Rule → Progress → Logged Progress
  | [], s => pure s
  | r :: rs, s => do
    let s ← perform tracing r s
    performAll tracing rs s

end Progress

/-- The evaluation of a product by a rule set that makes each notice while it is at its rule. -/
def evaluateInSteps (tracing : Bool) (set : RuleSet) (p : Product) : Logged Evaluation := do
  let s ← Progress.performAll tracing set.rules { product := p, report := {} }
  Logged.note (.rulesApplied s.product.name s.report.rulesEvaluated s.report.matchedRules.length
    s.report.diagnostics.length)
  pure { report := s.report, product := s.product }

/-- The notices about some diagnostics. -/
def Diagnostic.entries (ds : List Diagnostic) : List Log.Entry :=
  ds.map fun d => .note d.notice

theorem Diagnostic.entries_append (ds ds' : List Diagnostic) :
    entries (ds ++ ds') = entries ds ++ entries ds' :=
  List.map_append

namespace Progress

/-- The progress after some visits. -/
def ofVisits (tracing : Bool) (visits : List Visit) (p : Product) : Progress where
  product := p
  report := .ofVisits tracing visits

theorem start_eq (tracing : Bool) (p : Product) :
    ({ product := p, report := {} } : Progress) = ofVisits tracing [] p := by
  cases tracing <;> rfl

section

variable {tracing : Bool} {r : Rule} {s : Progress}

theorem perform_of_unknownCondition {tag : String} (hc : r.condition.unknownTag? = some tag) :
    perform tracing r s =
      (do
        let s ← s.counted.diagnosed (.unknownCondition r.index tag)
        pure (s.traced tracing r .skipped)) := by
  simp only [perform, hc]

theorem perform_of_not_holds (hc : r.condition.unknownTag? = none)
    (hh : r.condition.holds s.product = false) :
    perform tracing r s = pure (s.counted.traced tracing r .notMatched) := by
  simp only [perform, hc, counted, hh, Bool.not_false, if_true]

theorem perform_of_unknownAction {tag : String} (hc : r.condition.unknownTag? = none)
    (hh : r.condition.holds s.product = true) (ha : r.action.unknownTag? = some tag) :
    perform tracing r s =
      (do
        let s ← (s.counted.matching r.index).diagnosed (.unknownAction r.index tag)
        pure (s.traced tracing r .noEffect)) := by
  simp only [perform, hc, counted, hh, ha, Bool.not_true, Bool.false_eq_true, if_false]

theorem perform_of_known (hc : r.condition.unknownTag? = none)
    (hh : r.condition.holds s.product = true) (ha : r.action.unknownTag? = none) :
    perform tracing r s =
      pure ({ s.counted.matching r.index with product := r.action.apply s.product }.traced tracing r
        .applied) := by
  simp only [perform, hc, counted, matching, hh, ha, Bool.not_true, Bool.false_eq_true, if_false]

end

/-- The progress with one more visit. -/
theorem ofVisits_snoc (tracing : Bool) (visits : List Visit) (v : Visit) (p : Product) :
    ofVisits tracing (visits ++ [v]) p =
      { product := p
        report :=
          { rulesEvaluated := visits.length + 1
            matchedRules := visits.filterMap Visit.matched? ++ v.matched?.toList
            diagnostics := visits.filterMap Visit.diagnostic? ++ v.diagnostic?.toList
            trace := (if tracing then visits.map Visit.shown else []) ++
              if tracing then [v.shown] else [] } } := by
  have hone : ∀ {α : Type} (f : Visit → Option α), [v].filterMap f = (f v).toList := by
    intro α f
    rw [List.filterMap_cons, List.filterMap_nil]
    cases f v <;> rfl
  rw [ofVisits, Report.ofVisits, List.length_append, List.filterMap_append, List.filterMap_append,
    hone, hone, List.map_append]
  cases tracing <;> rfl

/-- One step: the report has one more visit, and the notice is the one about its diagnostic. -/
theorem perform_ofVisits (tracing : Bool) (r : Rule) (visits : List Visit) (p : Product) :
    perform tracing r (ofVisits tracing visits p) =
      { entries := Diagnostic.entries (r.visit p).diagnostic?.toList
        value := ofVisits tracing (visits ++ [r.visit p]) (r.after (r.visit p).verdict p) } := by
  rw [ofVisits_snoc]
  cases hc : r.condition.unknownTag? with
  | some tag =>
    have hunknown : r.condition.isKnown = false := by rw [Condition.isKnown, hc]; rfl
    rw [perform_of_unknownCondition hc, Rule.visit_of_unknownCondition hunknown]
    simp only [Visit.diagnostic?, hc, Visit.matched?, Verdict.isMatch, Bool.false_eq_true, if_false,
      Option.toList_none, List.append_nil]
    rfl
  | none =>
    have hknown : r.condition.isKnown = true := by rw [Condition.isKnown, hc]; rfl
    -- the condition is asked of the product as it now is
    cases hh : r.condition.holds p with
    | false =>
      rw [perform_of_not_holds hc hh, Rule.visit_of_not_holds hknown hh]
      simp only [Visit.diagnostic?, Visit.matched?, Verdict.isMatch, Bool.false_eq_true, if_false,
        Option.toList_none, List.append_nil]
      rfl
    | true =>
      cases ha : r.action.unknownTag? with
      | some tag =>
        have hunknown : r.action.isKnown = false := by rw [Action.isKnown, ha]; rfl
        rw [perform_of_unknownAction hc hh ha, Rule.visit_of_unknownAction hknown hh hunknown]
        simp only [Visit.diagnostic?, ha, Visit.matched?, Verdict.isMatch, if_true]
        rfl
      | none =>
        have hknown' : r.action.isKnown = true := by rw [Action.isKnown, ha]; rfl
        rw [perform_of_known hc hh ha, Rule.visit_of_known hknown hh hknown']
        simp only [Visit.diagnostic?, Visit.matched?, Verdict.isMatch, if_true, Option.toList_none,
          List.append_nil]
        rfl

/-- A run: the report has the visits of all rules, and the notices are those about its
diagnostics. -/
theorem performAll_ofVisits (tracing : Bool) (rs : List Rule) (visits : List Visit) (p : Product) :
    performAll tracing rs (ofVisits tracing visits p) =
      { entries := Diagnostic.entries ((visitAll rs p).1.filterMap Visit.diagnostic?)
        value := ofVisits tracing (visits ++ (visitAll rs p).1) (visitAll rs p).2 } := by
  induction rs generalizing visits p with
  | nil =>
    rw [visitAll_nil, List.append_nil]
    rfl
  | cons r rs ih =>
    have hsplit : (visitAll (r :: rs) p).1.filterMap Visit.diagnostic? =
        (r.visit p).diagnostic?.toList ++
          (visitAll rs (r.after (r.visit p).verdict p)).1.filterMap Visit.diagnostic? := by
      rw [visitAll_cons_fst, List.filterMap_cons]
      cases (r.visit p).diagnostic? <;> rfl
    have hvisits : visits ++ (visitAll (r :: rs) p).1 =
        visits ++ [r.visit p] ++ (visitAll rs (r.after (r.visit p).verdict p)).1 := by
      rw [visitAll_cons_fst, List.append_assoc]
      rfl
    rw [performAll, perform_ofVisits, hsplit, hvisits, Diagnostic.entries_append, Logged.mk_bind, ih]
    rfl

end Progress

/-- Making the notices in between comes to the same. -/
theorem evaluate_eq_evaluateInSteps (tracing : Bool) (set : RuleSet) (p : Product) :
    evaluate tracing (some set) p = evaluateInSteps tracing set p := by
  unfold evaluateInSteps
  rw [Progress.start_eq tracing p, Progress.performAll_ofVisits]
  rfl

/-! ## 5. Events and results -/

/-- The event about a diagnostic. -/
def Diagnostic.event : Diagnostic → Event
  | rulesNotLoaded =>
    { level := .debug, message := "Pricing rules not loaded, skipping evaluation", fields := [] }
  | unknownCondition rule tag => tagEvent "Unknown condition" rule tag
  | unknownAction rule tag => tagEvent "Unknown action" rule tag

/-- The event about an evaluation as a whole. -/
def Evaluation.event (e : Evaluation) : Event where
  level := .debug
  message := "Pricing rules applied"
  fields := [("product", .text e.product.name), ("rules_evaluated", .count e.report.rulesEvaluated),
    ("matched", .count e.report.matchedRules.length),
    ("diagnostics", .count e.report.diagnostics.length)]

theorem Diagnostic.event_notice (d : Diagnostic) : d.notice.event = d.event := by
  cases d <;> rfl

theorem Diagnostic.events_entries (ds : List Diagnostic) :
    (Log.notices (entries ds)).map Log.Notice.event = ds.map event := by
  induction ds with
  | nil => rfl
  | cons d ds ih =>
    show d.notice.event :: (Log.notices (entries ds)).map Log.Notice.event = d.event :: ds.map event
    rw [ih, event_notice]

theorem Progress.events_performAll (tracing : Bool) (rs : List Rule) (p : Product) :
    (performAll tracing rs (ofVisits tracing [] p)).events =
      (performAll tracing rs (ofVisits tracing [] p)).value.report.diagnostics.map
        Diagnostic.event := by
  rw [performAll_ofVisits, List.nil_append]
  exact Diagnostic.events_entries _

theorem events_evaluateInSteps (tracing : Bool) (set : RuleSet) (p : Product) :
    (evaluateInSteps tracing set p).events =
      (evaluateInSteps tracing set p).value.report.diagnostics.map Diagnostic.event ++
        [(evaluateInSteps tracing set p).value.event] := by
  unfold evaluateInSteps
  rw [Progress.start_eq tracing p, Logged.events_bind, Progress.events_performAll]
  rfl

/-- **Events mirror results.** Compiling in lenient mode has the events about the unknown tags of the
records before the first one whose amount is not finite, in order; in strict mode it has none.
Loading has those of the compilation, and one more about the rule set if there is one. An evaluation
by a rule set makes its notices rule by rule; they are the events about its diagnostics, in order,
and the one about the evaluation as a whole comes last. Without a rule set there is only the event
that says so. -/
theorem events_mirror_results :
    (∀ records,
      (RuleSet.compile .lenient records).events =
          RuleRecord.tagEventsFrom 0 (records.takeWhile fun record => record.value.isFinite) ∧
        (RuleSet.compile .strict records).events = []) ∧
    (∀ mode text,
      (RuleSet.load mode text).events =
        ((RuleRecord.parseAll text).toOption.elim [] fun records =>
          (RuleSet.compile mode records).events) ++
        ((RuleSet.load mode text).value.toOption.map (RuleSet.loadedEvent mode)).toList) ∧
    (∀ tracing set p,
      let e := evaluate tracing (some set) p
      e = evaluateInSteps tracing set p ∧
        e.events = e.value.report.diagnostics.map Diagnostic.event ++ [e.value.event]) ∧
    ∀ tracing p,
      let e := evaluate tracing none p
      e.events = e.value.report.diagnostics.map Diagnostic.event ∧
        e.value.report.diagnostics = [.rulesNotLoaded] := by
  refine ⟨fun records => ⟨?_, ?_⟩, RuleSet.events_load, fun tracing set p => ⟨?_, ?_⟩,
    fun tracing p => ⟨rfl, rfl⟩⟩
  · rw [RuleSet.events_compile, Rule.events_compileFrom_lenient]
  · rw [RuleSet.events_compile, Rule.events_compileFrom_strict]
  · exact evaluate_eq_evaluateInSteps tracing set p
  · rw [evaluate_eq_evaluateInSteps]
    exact events_evaluateInSteps tracing set p

end LoanPricing
