import LoanPricing.Proofs.CommandLine.Results
import LoanPricing.Proofs.Config.Fields
import LoanPricing.Proofs.Log.Quiet
import LoanPricing.Proofs.Rules.Loading
import LoanPricing.Proofs.Rules.Snapshot
import LoanPricing.Proofs.Rules.Tags

/-!
# The error stream — everything reported once

An unknown tag is seen when the rules are compiled, and if it matters it is seen again when they are
applied. Both leave notices, and so does a file that does not load. The lines for the user are
printed in two places only: one about the file by the loading, and one about each diagnostic by the
run. Under a filter that hides the notices these lines are all that there is.
-/

namespace LoanPricing

open Log (Logged)
open RuleRecord (rulesFrom)

/-! ## 1. Lines printed on the way -/

-- Only the value goes from one step to the next, so the next one has to print nothing for any.
theorem Log.Logged.prints_bind_eq_nil {α β : Type} {x : Logged α} {f : α → Logged β}
    (hx : x.prints = []) (hf : ∀ a, (f a).prints = []) : (x >>= f).prints = [] := by
  rw [prints_bind, hx, hf, List.append_nil]

namespace Rule

theorem prints_vet (mode : Mode) (unknownTag : Option String) (error : String → RuleError)
    (notice : String → Log.Notice) : (vet mode unknownTag error notice).prints = [] := by
  cases unknownTag <;> cases mode <;> rfl

theorem prints_compile (mode : Mode) (index : Nat) (record : RuleRecord) :
    (compile mode index record).prints = [] := by
  unfold compile
  split
  · rfl
  · apply Logged.prints_bind_eq_nil (prints_vet ..)
    intro vetted
    cases vetted with
    | error e => rfl
    | ok _ =>
      apply Logged.prints_bind_eq_nil (prints_vet ..)
      intro vetted
      cases vetted <;> rfl

theorem prints_compileFrom (mode : Mode) (index : Nat) (records : List RuleRecord) :
    (compileFrom mode index records).prints = [] := by
  induction records generalizing index with
  | nil => rfl
  | cons record records ih =>
    apply Logged.prints_bind_eq_nil (prints_compile mode index record)
    intro compiled
    cases compiled with
    | error e => rfl
    | ok rule =>
      apply Logged.prints_bind_eq_nil (ih (index + 1))
      intro compiled
      cases compiled <;> rfl

end Rule

namespace RuleSet

theorem prints_compile (mode : Mode) (records : List RuleRecord) :
    (compile mode records).prints = [] := by
  apply Logged.prints_bind_eq_nil (Rule.prints_compileFrom mode 0 records)
  intro compiled
  cases compiled <;> rfl

theorem prints_load (mode : Mode) (text : String) : (load mode text).prints = [] := by
  rw [load, Logged.prints_within]
  cases RuleRecord.parseAll text with
  | error e => rfl
  | ok records =>
    apply Logged.prints_bind_eq_nil (prints_compile mode records)
    intro compiled
    cases compiled <;> rfl

theorem prints_loadFile (mode : Mode) (disk : Disk) (path : String) :
    (loadFile mode disk path).prints = [] := by
  rw [loadFile, Logged.prints_within]
  cases disk.readText path with
  | error fault => rfl
  | ok text => exact prints_load mode text

variable {mode : Mode} {disk : Disk} {path : String}

/-- A file that loads is loaded without a line. -/
theorem prints_loadOrReport_of_ok {set : RuleSet} (h : (loadFile mode disk path).value = .ok set) :
    (loadOrReport mode disk path).prints = [] := by
  rw [loadOrReport, Logged.prints_bind, prints_loadFile, h]
  rfl

/-- One that does not is reported in one line. -/
theorem prints_loadOrReport_of_error {e : RuleError}
    (h : (loadFile mode disk path).value = .error e) :
    (loadOrReport mode disk path).prints = ["Error loading pricing rules: " ++ e.message] := by
  rw [loadOrReport, Logged.prints_bind, prints_loadFile, h]
  rfl

end RuleSet

theorem prints_evaluate (tracing : Bool) (rules : Option RuleSet) (p : Product) :
    (evaluate tracing rules p).prints = [] := by
  cases rules with
  | none => rfl
  | some set =>
    show Log.printed (_ ++ [_]) = []
    rw [Log.printed_append, Log.printed_map_note]
    rfl

namespace CommandLine

variable {borrower : Borrower} {elapsed : UInt64}

theorem prints_price_of_rejected (s : Setup) (disk : Disk)
    (h : score? borrower.creditScore = none) : (s.price disk borrower elapsed).prints = [] := by
  simp only [Setup.price, parseCreditScore_of_none h]
  rfl

/-- Pricing prints what the loading does, and then a line for each diagnostic. -/
theorem prints_price_of_accepted (s : Setup) (disk : Disk) {n : Int32}
    (h : score? borrower.creditScore = some n) :
    (s.price disk borrower elapsed).prints =
      (RuleSet.loadOrReport s.mode disk s.rulesPath).prints ++
        (s.evaluation disk borrower.state n).report.diagnostics.map Diagnostic.message := by
  simp only [Setup.price, parseCreditScore_of_some h, Logged.prints_bind, Logged.prints_note,
    Logged.prints_pure, prints_evaluate, List.nil_append, List.append_nil]
  show _ ++ Log.printed _ = _
  rw [Log.printed_map_print]
  rfl

end CommandLine

/-! ## 2. Complaints about records -/

/-- The line about a record whose condition tag is unknown, or whose condition holds of a product
and whose action tag is unknown. -/
def RuleRecord.complaint? (p : Product) (record : RuleRecord) : Option String :=
  match TagReading.ask record.condition p with
  | none => some ("Unknown condition: " ++ record.condition)
  | some false => none
  | some true =>
    match TagReading.act record.action record.value p with
    | none => some ("Unknown action: " ++ record.action)
    | some _ => none

section

variable {p : Product} {record : RuleRecord}

theorem RuleRecord.complaint?_of_ask_eq_none (hask : TagReading.ask record.condition p = none) :
    record.complaint? p = some ("Unknown condition: " ++ record.condition) := by
  rw [complaint?, hask]

theorem RuleRecord.complaint?_of_ask_eq_false
    (hask : TagReading.ask record.condition p = some false) : record.complaint? p = none := by
  rw [complaint?, hask]

theorem RuleRecord.complaint?_of_act_eq_none
    (hask : TagReading.ask record.condition p = some true)
    (hact : TagReading.act record.action record.value p = none) :
    record.complaint? p = some ("Unknown action: " ++ record.action) := by
  simp only [complaint?, hask, hact]

theorem RuleRecord.complaint?_of_act_eq_some {q : Product}
    (hask : TagReading.ask record.condition p = some true)
    (hact : TagReading.act record.action record.value p = some q) :
    record.complaint? p = none := by
  simp only [complaint?, hask, hact]

end

/-- One record: the complaint is the line of what is diagnosed about its rule. -/
theorem RuleRecord.map_message_snapshotDiagnostic? (p : Product) (index : Nat)
    (record : RuleRecord) :
    ((record.rule index).snapshotDiagnostic? p).map Diagnostic.message = record.complaint? p := by
  rw [Rule.snapshotDiagnostic?_eq, rule_condition, rule_action, rule_index]
  rcases TagReading.ask_eq record.condition p with ⟨hask, hc⟩ | ⟨hask, hc⟩
  · rw [complaint?_of_ask_eq_none hask, hc]
    rfl
  · -- the condition is known, so that only the action can be complained about
    rw [Option.isNone_iff_eq_none.mp hc, Option.map_none, Option.none_or]
    cases hh : (Condition.ofTag record.condition).holds p with
    | false =>
      rw [hh] at hask
      rw [complaint?_of_ask_eq_false hask]
      rfl
    | true =>
      rw [hh] at hask
      rcases TagReading.act_eq record.action record.value p with ⟨hact, ha⟩ | ⟨hact, ha⟩
      · rw [complaint?_of_act_eq_none hask hact, ha]
        rfl
      · rw [complaint?_of_act_eq_some hask hact, Option.isNone_iff_eq_none.mp ha]
        rfl

/-- All records of a file. -/
theorem RuleRecord.map_message_diagnostics (p : Product) (index : Nat)
    (records : List RuleRecord) :
    ((rulesFrom index records).filterMap (Rule.snapshotDiagnostic? p)).map Diagnostic.message =
      records.filterMap (complaint? p) := by
  have hline : (fun numbered : RuleRecord × Nat =>
      ((numbered.1.rule numbered.2).snapshotDiagnostic? p).map Diagnostic.message) =
        complaint? p ∘ Prod.fst := by
    funext numbered
    exact numbered.1.map_message_snapshotDiagnostic? p numbered.2
  rw [rulesFrom, List.map_filterMap, List.filterMap_map]
  show (records.zipIdx index).filterMap (fun numbered : RuleRecord × Nat =>
      ((numbered.1.rule numbered.2).snapshotDiagnostic? p).map Diagnostic.message) = _
  rw [hline, ← List.filterMap_map, List.zipIdx_map_fst]

/-! ## 3. Quiet runs -/

namespace CommandLine

variable {args : List String} {disk : Disk} {env : Config.Variables} {input : List UInt8}
  {elapsed : UInt64} {s : Setup} {code : Nat} {output : String} {json : Bool}
  {errors : List Log.Output}

theorem run_of_prepare (hprepare : prepare args disk env = .ok s) (input : List UInt8) :
    run args disk env input elapsed =
      s.conclude disk (askBorrower s.options input).1 (askBorrower s.options input).2 elapsed := by
  simp only [run, hprepare]

/-- A quiet run shows the lines that its pricing prints. -/
theorem errors_of_conclude (hquiet : s.filter.IsQuiet) {written : String} {borrower : Borrower}
    (h : s.conclude disk written borrower elapsed = .finished code output json errors) :
    code = (s.price disk borrower elapsed).value.1 ∧
      errors = (s.price disk borrower elapsed).prints.map .print := by
  rw [Setup.conclude, Log.outputs_of_isQuiet hquiet _ (by simp)] at h
  injection h with hcode _ _ herrors
  exact ⟨hcode.symm, herrors.symm⟩

variable {borrower : Borrower} {n : Int32}

/-- With a credit score a run ends well. -/
theorem exists_run_of_accepted (hprepare : prepare args disk env = .ok s)
    (h : score? (s.options.scoreText input) = some n) :
    ∃ output json errors, run args disk env input elapsed = .finished 0 output json errors := by
  rw [← creditScore_askBorrower] at h
  rw [run_of_prepare hprepare, Setup.conclude, price_of_accepted s disk h]
  exact ⟨_, _, _, rfl⟩

theorem prints_price_of_notLoaded (haccepted : score? borrower.creditScore = some n) {e : RuleError}
    (h : (RuleSet.loadFile s.mode disk s.rulesPath).value = .error e) :
    (s.price disk borrower elapsed).prints =
      ["Error loading pricing rules: " ++ e.message, "Error: Pricing rules not loaded."] := by
  have hdiagnostics : (s.evaluation disk borrower.state n).report.diagnostics =
      [.rulesNotLoaded] := by
    rw [Setup.evaluation, RuleSet.loadOrReport_value, h]
    rfl
  rw [prints_price_of_accepted s disk haccepted, RuleSet.prints_loadOrReport_of_error h,
    hdiagnostics]
  rfl

theorem prints_price_of_loaded (haccepted : score? borrower.creditScore = some n) {set : RuleSet}
    (h : (RuleSet.loadFile s.mode disk s.rulesPath).value = .ok set) {records : List RuleRecord}
    (hrules : set.rules = rulesFrom 0 records) :
    (s.price disk borrower elapsed).prints =
      records.filterMap (RuleRecord.complaint? (productOf s.options borrower.state n)) := by
  have hdiagnostics : (s.evaluation disk borrower.state n).report.diagnostics =
      (rulesFrom 0 records).filterMap
        (Rule.snapshotDiagnostic? (productOf s.options borrower.state n)) := by
    rw [Setup.evaluation, RuleSet.loadOrReport_value, h, ← hrules]
    exact set.diagnostics_evaluate _ _
  rw [prints_price_of_accepted s disk haccepted, RuleSet.prints_loadOrReport_of_ok h,
    hdiagnostics, RuleRecord.map_message_diagnostics]
  rfl

/-- **Everything is reported once, and nothing else.** Under a filter that enables neither
information nor debugging, a run that ends because of its credit score leaves the error stream
empty. One that ends well has priced a product. If the rules could not be loaded there are two
lines, one with the error and one that says that there are no rules. Otherwise the rules are those
of the records of a text, and there is a line about each record, in order, whose condition tag is
unknown, or whose condition holds of the product and whose action tag is unknown. -/
theorem run_errorStream (hprepare : prepare args disk env = .ok s)
    (hinfo : ¬ s.filter.Enables .info) (hdebug : ¬ s.filter.Enables .debug)
    (hrun : run args disk env input elapsed = .finished code output json errors) :
    (score? (s.options.scoreText input) = none → errors = []) ∧
    (code = 0 → ∃ n, score? (s.options.scoreText input) = some n ∧
      (∀ e, (RuleSet.loadFile s.mode disk s.rulesPath).value = .error e →
        errors = [.print ("Error loading pricing rules: " ++ e.message),
          .print "Error: Pricing rules not loaded."]) ∧
      ∀ set, (RuleSet.loadFile s.mode disk s.rulesPath).value = .ok set →
        ∃ text records, disk s.rulesPath = .ok (Text.Utf8.encode text) ∧
          IsRulesText text records ∧ set.rules = rulesFrom 0 records ∧
          errors = (records.filterMap (RuleRecord.complaint?
            (productOf s.options (askBorrower s.options input).2.state n))).map .print) := by
  rw [run_of_prepare hprepare] at hrun
  have hquiet : s.filter.IsQuiet := Log.Filter.isQuiet_of_not_enables hinfo hdebug
  have hconclude := errors_of_conclude hquiet hrun
  have hscore := creditScore_askBorrower s.options input
  rw [← hscore, hconclude.1, hconclude.2]
  cases haccepted : score? (askBorrower s.options input).2.creditScore with
  | none =>
    rw [prints_price_of_rejected s disk haccepted, price_of_rejected s disk haccepted]
    exact ⟨fun _ => rfl, fun hcode => absurd hcode (by decide)⟩
  | some n =>
    refine ⟨fun h => absurd h (by simp), fun _ => ⟨n, rfl, fun e herror => ?_, fun set hset => ?_⟩⟩
    · rw [prints_price_of_notLoaded haccepted herror]
      rfl
    · obtain ⟨text, hbytes, hload⟩ := RuleSet.loadFile_eq_ok_iff.mp hset
      obtain ⟨records, hrecords, hcompile⟩ := RuleSet.load_eq_ok_iff.mp hload
      have hrules := RuleSet.rules_of_compile hcompile
      refine ⟨text, records, hbytes, RuleRecord.parseAll_eq_ok_iff.mp hrecords, hrules, ?_⟩
      rw [prints_price_of_loaded haccepted hset hrules]

/-- A condition outside the vocabulary, a rule that does not match, and an action outside the
vocabulary, with nothing said about the log. -/
theorem run_errorStream_unknownTags :
    let text :=
      "[[\"Texas\",\"Disqualify\"],[\"Florida\",\"Waive\"],[\"CreditScore720\",\"Waive\"]]"
    let disk : Disk := fun path =>
      if path = "rules.json" then .ok (Text.Utf8.encode text) else .error .notFound
    ∃ output json, run ["--state=Texas", "--credit-score=750"] disk [] [] 37 =
      .finished 0 output json
        [.print "Unknown condition: Texas", .print "Unknown action: Waive"] := by
  intro text disk
  let o : Options := { state := some "Texas", creditScore := some "750" }
  let s : Setup := { options := o, config := {}, filter := Log.Filter.choose none "warn" }
  let p : Product := productOf o "Texas" 750
  have hprepare : prepare ["--state=Texas", "--credit-score=750"] disk [] = .ok s :=
    Config.toOption_eq_some_iff.mp (by decide +kernel)
  have hinfo : ¬ s.filter.Enables .info := Log.Filter.not_enables_of_ceiling (by decide +kernel)
  have hdebug : ¬ s.filter.Enables .debug := Log.Filter.not_enables_of_ceiling (by decide +kernel)
  have hbytes : disk s.rulesPath = .ok (Text.Utf8.encode text) := rfl
  let records : List RuleRecord :=
    [⟨"Texas", "Disqualify", 0.0⟩, ⟨"Florida", "Waive", 0.0⟩, ⟨"CreditScore720", "Waive", 0.0⟩]
  have hrecords : RuleRecord.parseAll text = .ok records :=
    Config.toOption_eq_some_iff.mp (by decide +kernel)
  have hcompile : (RuleSet.compile s.mode records).value =
      .ok { rules := rulesFrom 0 records } :=
    RuleSet.compile_lenient_of_isFinite (by decide)
  have hset : (RuleSet.loadFile s.mode disk s.rulesPath).value =
      .ok { rules := rulesFrom 0 records } :=
    RuleSet.loadFile_eq_ok_iff.mpr
      ⟨text, hbytes, RuleSet.load_eq_ok_iff.mpr ⟨records, hrecords, hcompile⟩⟩
  have hlines : records.filterMap (RuleRecord.complaint? p) =
      ["Unknown condition: Texas", "Unknown action: Waive"] := by
    have hsmall : Text.lower "florida" = "florida" := by decide +kernel
    have hsmall' : Text.lower "creditscore720" = "creditscore720" := by decide +kernel
    have htexas : TagReading.ask "Texas" p = none := by decide +kernel
    have hflorida : TagReading.ask "Florida" p = some false := by
      rw [TagReading.ask, Text.sameIgnoringCase_of_lower (by decide +kernel) hsmall]
      decide +kernel
    have hscore : TagReading.ask "CreditScore720" p = some true := by
      have hother : Text.sameIgnoringCase "CreditScore720" "florida" = false := by decide +kernel
      rw [TagReading.ask, hother, Text.sameIgnoringCase_of_lower (by decide +kernel) hsmall']
      rfl
    have hwaive : TagReading.act "Waive" 0.0 p = none :=
      TagReading.act_eq_none_iff.mpr (by decide +kernel)
    rw [List.filterMap_cons_some (RuleRecord.complaint?_of_ask_eq_none htexas),
      List.filterMap_cons_none (RuleRecord.complaint?_of_ask_eq_false hflorida),
      List.filterMap_cons_some (RuleRecord.complaint?_of_act_eq_none hscore hwaive)]
    rfl
  have hscore : score? (s.options.scoreText []) = some 750 := by decide +kernel
  obtain ⟨output, json, errors, hrun⟩ := @exists_run_of_accepted _ _ _ _ 37 _ _ hprepare hscore
  obtain ⟨n, hn, -, hloaded⟩ := (run_errorStream hprepare hinfo hdebug hrun).2 rfl
  obtain rfl : 750 = n := Option.some.inj (hscore.symm.trans hn)
  obtain ⟨text', records', hbytes', hrecords', -, rfl⟩ := hloaded _ hset
  -- the file has one text, and the text one list of records
  obtain rfl : text = text' := Except.ok.inj
    ((Disk.readText_eq_ok_iff.mpr hbytes).symm.trans (Disk.readText_eq_ok_iff.mpr hbytes'))
  obtain rfl : records = records' :=
    Except.ok.inj (hrecords.symm.trans (RuleRecord.parseAll_eq_ok_iff.mpr hrecords'))
  refine ⟨output, json, hrun.trans ?_⟩
  exact congrArg (fun lines => Outcome.finished 0 output json (lines.map Log.Output.print)) hlines

end CommandLine

end LoanPricing
