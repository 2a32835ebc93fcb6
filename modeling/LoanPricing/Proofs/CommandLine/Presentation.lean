import LoanPricing.Proofs.CommandLine.Results
import LoanPricing.Proofs.Rules.Trace

/-!
# Presentation — one result in four forms

Two flags say how a result is shown: in plain lines or as JSON, with the trace or without. Nothing
else depends on them. A run that has no result to show does not look at them, and of all others the
exit code and the error stream are the same in every form, and the forms tell of one result.
-/

namespace LoanPricing

open Json

/-- The document with something else under a key. -/
def Json.Document.withMember (d : Document) (key : String) (new : Document) : Document :=
  match d with
  | .object members => .object (members.map fun m => if m.1 = key then (key, new) else m)
  | other => other

namespace CommandLine

variable {args : List String} {disk : Disk} {env : Config.Variables} {o o' : Options}
  {config : Config.Configuration} {c : Change} {cs : List Change}

/-! ## 1. Command lines -/

/-- The options with the result shown as JSON or in plain lines, and with the trace or without. -/
def Options.showing (o : Options) (json trace : Bool) : Options :=
  { o with json, trace }

/-- Whether a change is about how the result is shown. -/
def Change.isShowing : Change → Bool
  | .flag .json _ => true
  | .flag .trace _ => true
  | _ => false

/-- The arguments about other things can be given by themselves. -/
theorem Reads.exists_others (h : Reads args cs) :
    ∃ args', Reads args' (cs.filter fun c => !c.isShowing) := by
  induction h with
  | done => exact ⟨[], .done⟩
  | separator => exact ⟨[], .done⟩
  | joined harg hname _ ih =>
    obtain ⟨rest, ih⟩ := ih
    exact ⟨_, .joined harg hname ih⟩
  | following harg hname hnext _ ih =>
    obtain ⟨rest, ih⟩ := ih
    exact ⟨_, .following harg hname hnext ih⟩
  | @flag _ _ flag _ _ harg hvalue hname _ ih =>
    obtain ⟨rest, ih⟩ := ih
    cases flag with
    | strict => exact ⟨_, .flag harg hvalue hname ih⟩
    | json => exact ⟨rest, ih⟩
    | trace => exact ⟨rest, ih⟩

namespace Options

theorem showing_of_change (h : o.change c = .ok o') (hc : c.isShowing = true) (json trace : Bool) :
    o'.showing json trace = o.showing json trace := by
  cases c with
  | value x spelled text => exact Bool.noConfusion hc
  | flag f spelled =>
    obtain ⟨-, rfl⟩ := turnOn_eq_ok_iff.mp h
    cases f with
    | strict => exact Bool.noConfusion hc
    | json => rfl
    | trace => rfl

theorem change_showing (h : o.change c = .ok o') (hc : c.isShowing = false) (json trace : Bool) :
    (o.showing json trace).change c = .ok (o'.showing json trace) := by
  cases c with
  | value x spelled text =>
    obtain ⟨hfree, v, hv, rfl⟩ := set_eq_ok_iff.mp h
    refine set_eq_ok_iff.mpr ⟨?_, v, hv, ?_⟩
    · cases x <;> exact hfree
    · cases x <;> rfl
  | flag f spelled =>
    obtain ⟨hoff, rfl⟩ := turnOn_eq_ok_iff.mp h
    cases f with
    | strict => exact turnOn_eq_ok_iff.mpr ⟨hoff, rfl⟩
    | json => exact Bool.noConfusion hc
    | trace => exact Bool.noConfusion hc

theorem changeAll_showing (h : o.changeAll cs = .ok o') (json trace : Bool) :
    (o.showing json trace).changeAll (cs.filter fun c => !c.isShowing) =
      .ok (o'.showing json trace) := by
  induction cs generalizing o with
  | nil => exact congrArg (fun o => Except.ok (showing o json trace)) (Except.ok.inj h)
  | cons c cs ih =>
    obtain ⟨next, hc, hcs⟩ := changeAll_cons.mp h
    cases hshowing : c.isShowing with
    | true =>
      rw [List.filter_cons_of_neg (by simp [hshowing]), ← showing_of_change hc hshowing]
      exact ih hcs
    | false =>
      rw [List.filter_cons_of_pos (by simp [hshowing])]
      exact changeAll_cons.mpr ⟨_, change_showing hc hshowing json trace, ih hcs⟩

end Options

/-- The changes that show the result in a form. -/
def formChanges (json trace : Bool) : List Change :=
  (if json then [.flag .json "json"] else []) ++ if trace then [.flag .trace "trace"] else []

/-- Every command line has one that shows the result in another form and is the same otherwise. -/
theorem exists_parse_showing {dir : Option String} (h : parse args dir = .ok o)
    (json trace : Bool) : ∃ args', parse args' dir = .ok (o.showing json trace) := by
  obtain ⟨given, hparse, hvariable⟩ := parse_eq_ok_iff.mp h
  obtain ⟨changes, hreads, hchanges⟩ := parseFrom_eq_ok_iff.mp hparse
  obtain ⟨args', hothers⟩ := hreads.exists_others
  have hform : ∃ args'', Reads args''
      (formChanges json trace ++ changes.filter fun c => !c.isShowing) := by
    have htrace : Reads ("--trace" :: args') (.flag .trace "trace" :: _) :=
      .flag (by decide) rfl rfl hothers
    cases json <;> cases trace
    · exact ⟨_, hothers⟩
    · exact ⟨_, htrace⟩
    · exact ⟨"--json" :: _, .flag (by decide) rfl rfl hothers⟩
    · exact ⟨"--json" :: _, .flag (by decide) rfl rfl htrace⟩
  obtain ⟨args'', hform⟩ := hform
  have hstart : ({} : Options).changeAll
      (formChanges json trace ++ changes.filter fun c => !c.isShowing) =
        .ok (given.showing json trace) := by
    rw [← Options.changeAll_showing hchanges]
    cases json <;> cases trace <;> rfl
  have hother : (given.variableChanges dir).filter (fun c => !c.isShowing) =
      given.variableChanges dir := by
    unfold Options.variableChanges
    cases dir with
    | none => rfl
    | some dir => cases given.config <;> rfl
  refine ⟨args'', parse_eq_ok_iff.mpr ⟨given.showing json trace, parseFrom_eq_ok_iff.mpr
    ⟨_, hform, hstart⟩, ?_⟩⟩
  have hend := Options.changeAll_showing hvariable json trace
  rw [hother] at hend
  exact hend

/-! ## 2. Forms -/

/-- The plain lines about a product, after those of a trace. -/
def plainText (trace : List String) (p : Product) : String :=
  String.join (trace.map fun line => line ++ "\n") ++
    ("Final interest rate for " ++ p.name ++ ": " ++ String.ofList (Decimal.plain p.interestRate) ++
      "\n") ++
    ("Product disqualified: " ++ shownFlag p.disqualified ++ "\n")

theorem resultText_plain (time : UInt64) (e : Evaluation) :
    resultText false time e = plainText e.report.trace e.product := by
  rw [resultText, if_neg Bool.false_ne_true, resultLines, List.map_append, String.join_append,
    plainText]
  simp only [List.map_cons, List.map_nil, String.join_cons, String.join_nil, String.append_empty,
    String.append_assoc]

theorem sorted_resultJson (time : UInt64) (e : Evaluation) :
    (resultJson time e).sorted =
      .object [("diagnostics", (Value.list (e.report.diagnostics.map Diagnostic.toJson)).sorted),
        ("evaluation_time_us", .nat time.toNat),
        ("evaluation_trace", (Value.list (e.report.trace.map .text)).sorted),
        ("matched_rules", (Value.list (e.report.matchedRules.map .nat)).sorted),
        ("product", e.product.toJson.sorted)] := by
  simp only [resultJson, Value.sorted, sortedMembers, insertMember, String.reduceLT, ↓reduceIte]
  rfl

/-- Without its trace a result has the same JSON document, but for an empty list of lines. -/
theorem sortedDocument_resultJson_untraced (time : UInt64) (e : Evaluation) :
    (resultJson time e.untraced).sortedDocument =
      (resultJson time e).sortedDocument.withMember "evaluation_trace" (.list []) := by
  rw [Value.sortedDocument, Value.sortedDocument, sorted_resultJson, sorted_resultJson]
  rfl

/-! ## 3. Pricing -/

variable {borrower : Borrower} {n : Int32} {input : List UInt8} {elapsed elapsed' : UInt64}

/-- What is written to the log depends neither on the form nor on the time. -/
theorem entries_price_showing (o : Options) (disk : Disk) (borrower : Borrower)
    (json trace : Bool) (elapsed : UInt64) :
    (((o.showing json trace).setup env config).price disk borrower elapsed).entries =
      (((o.showing true true).setup env config).price disk borrower 0).entries := by
  unfold Setup.price
  cases parseCreditScore borrower.creditScore with
  | error e => rfl
  | ok n =>
    -- the text of the result, which alone knows of the form and the time, is no entry
    simp only [Log.Logged.entries_bind, Log.Logged.entries_pure]
    cases trace with
    | true => rfl
    | false =>
      have htrace : ((o.showing json false).setup env config).options.trace = false := rfl
      simp only [htrace, evaluate_untraced]
      rfl

theorem evaluation_showing (o : Options) (disk : Disk) (state : String) (n : Int32)
    (json trace : Bool) :
    let e := ((o.showing true true).setup env config).evaluation disk state n
    ((o.showing json trace).setup env config).evaluation disk state n =
      if trace then e else e.untraced := by
  cases trace with
  | true => rfl
  | false => exact congrArg Log.Logged.value (evaluate_untraced _ _)

/-- A run with a credit score shows one evaluation, in any form with the same errors. -/
theorem exists_conclude_showing (hscore : score? borrower.creditScore = some n) (o : Options)
    (disk : Disk) (written : String) :
    let e := ((o.showing true true).setup env config).evaluation disk borrower.state n
    ∃ errors, ∀ elapsed json trace,
      ((o.showing json trace).setup env config).conclude disk written borrower elapsed =
        .finished 0
          (written ++ resultText json (e.time elapsed) (if trace then e else e.untraced))
          config.logging.json errors := by
  intro e
  refine ⟨Log.outputs (o.setup env config).filter config.logging.json []
    (((o.showing true true).setup env config).price disk borrower 0).entries,
    fun elapsed json trace => ?_⟩
  have htime : (if trace then e else e.untraced).time elapsed = e.time elapsed := by
    cases trace <;> rfl
  rw [Setup.conclude, price_value_of_accepted _ disk hscore, entries_price_showing,
    evaluation_showing o disk borrower.state n json trace, htime]
  rfl

/-- The result in plain lines or as JSON, with the trace or without. -/
theorem resultText_showing (time : UInt64) (e : Evaluation) (json trace : Bool) :
    resultText json time (if trace then e else e.untraced) =
      if json then
        (if trace then (resultJson time e).pretty else (resultJson time e.untraced).pretty) ++ "\n"
      else plainText (if trace then e.report.trace else []) e.product := by
  cases json with
  | true => cases trace <;> rfl
  | false =>
    rw [resultText_plain]
    cases trace <;> rfl

/-! ## 4. Runs -/

/-- A run ends well if it has a configuration and a credit score. -/
theorem code_run_eq_zero_iff (hparse : parse args (env.lookup "CONFIG_DIR") = .ok o) :
    (run args disk env input elapsed).code = 0 ↔
      ∃ config n, Config.load disk o.configDir env = .ok config ∧
        score? (o.scoreText input) = some n := by
  cases hload : Config.load disk o.configDir env with
  | error e =>
    rw [run_of_configError hparse hload]
    simp [Outcome.code]
  | ok config =>
    rw [run_of_config hparse hload, Setup.conclude, ← creditScore_askBorrower]
    cases haccepted : score? (askBorrower o input).2.creditScore with
    | none =>
      rw [price_of_rejected _ disk haccepted]
      simp [Outcome.code]
    | some n =>
      rw [Outcome.code, price_of_accepted _ disk haccepted]
      simp

/-- Any other run does not look at how its result would be shown. -/
theorem run_showing_of_code_ne_zero (hparse : parse args (env.lookup "CONFIG_DIR") = .ok o)
    (hcode : (run args disk env input elapsed).code ≠ 0) {args' : List String} {json trace : Bool}
    (hparse' : parse args' (env.lookup "CONFIG_DIR") = .ok (o.showing json trace)) :
    run args' disk env input elapsed' = run args disk env input elapsed := by
  cases hload : Config.load disk o.configDir env with
  | error e =>
    rw [run_of_configError hparse hload]
    exact run_of_configError hparse' hload input
  | ok config =>
    have hrejected : score? (o.scoreText input) = none :=
      Option.eq_none_iff_forall_not_mem.mpr fun n hn =>
        hcode ((code_run_eq_zero_iff hparse).mpr ⟨config, n, hload, hn⟩)
    have halike : o.AskAlike (o.showing json trace) := ⟨rfl, rfl, rfl⟩
    rw [run_of_config hparse hload, run_of_config hparse' hload]
    exact conclude_congr_of_rejected halike hrejected

/-- **Presentation affects presentation only.** Every command line has one that shows the result in
another form and is the same otherwise. A run that ends without a result has the same outcome in all
forms. One that ends well has the same exit code and the same error stream in all of them, however
long applying the rules takes, and they tell of one evaluation: as JSON they write a text that gives
the product, the report and the time, and without the trace one that differs from it in an empty
list of lines; and in plain lines they write the lines of that trace, if there is one, and then the
rate of that product and whether it is disqualified. -/
theorem run_showing (hparse : parse args (env.lookup "CONFIG_DIR") = .ok o) (disk : Disk)
    (input : List UInt8) (elapsed : UInt64) :
    (∀ json trace, ∃ args',
      parse args' (env.lookup "CONFIG_DIR") = .ok (o.showing json trace)) ∧
    ((run args disk env input elapsed).code ≠ 0 → ∀ args' json trace elapsed',
      parse args' (env.lookup "CONFIG_DIR") = .ok (o.showing json trace) →
        run args' disk env input elapsed' = run args disk env input elapsed) ∧
    ((run args disk env input elapsed).code = 0 →
      ∃ e logJson errors, (o.showing true true).evaluation? disk env input = some e ∧
        ∀ elapsed', ∃ document untraced,
          (Document.read document).bind Summary.ofDocument? = some (Summary.ofEvaluation e) ∧
          (Document.read document).bind (Document.under "evaluation_time_us" Document.nat?) =
            some (e.time elapsed').toNat ∧
          Document.read untraced =
            (Document.read document).map (·.withMember "evaluation_trace" (.list [])) ∧
          ∀ args' json trace,
            parse args' (env.lookup "CONFIG_DIR") = .ok (o.showing json trace) →
              run args' disk env input elapsed' = .finished 0
                (o.prompts ++
                  if json then (if trace then document else untraced) ++ "\n"
                  else plainText (if trace then e.report.trace else []) e.product)
                logJson errors) := by
  refine ⟨exists_parse_showing hparse, fun hcode args' json trace elapsed' hparse' =>
    run_showing_of_code_ne_zero hparse hcode hparse', fun hcode => ?_⟩
  obtain ⟨config, n, hload, hscore⟩ := (code_run_eq_zero_iff hparse).mp hcode
  let e := ((o.showing true true).setup env config).evaluation disk (askBorrower o input).2.state n
  have he : (o.showing true true).evaluation? disk env input = some e := by
    have hload' : Config.load disk (o.showing true true).configDir env = .ok config := hload
    have hscore' : score? ((o.showing true true).scoreText input) = some n := hscore
    rw [Options.evaluation?, hload', hscore']
    rfl
  rw [← creditScore_askBorrower] at hscore
  obtain ⟨errors, hforms⟩ := exists_conclude_showing hscore o disk (askBorrower o input).1
  refine ⟨e, config.logging.json, errors, he, fun elapsed' => ?_⟩
  refine ⟨(resultJson (e.time elapsed') e).pretty, (resultJson (e.time elapsed') e.untraced).pretty,
    ?_, ?_, ?_, fun args' json trace hparse' => ?_⟩
  · rw [Value.read_pretty, Option.bind_some, ofDocument?_resultJson]
  · rw [Value.read_pretty, Option.bind_some, time_resultJson]
  · rw [Value.read_pretty, Value.read_pretty, sortedDocument_resultJson_untraced]
    rfl
  · rw [← resultText_showing, ← askBorrower_fst o input, run_of_config hparse' hload]
    exact hforms elapsed' json trace

/-- A loan in Florida, with the credit score asked for: in plain lines, and as JSON with the trace,
in a run that takes longer. -/
theorem run_showing_florida :
    let disk : Disk := fun path =>
      if path = "rules.json" then .ok (Text.Utf8.encode "[[\"FLORIDA\",\"Disqualify\"]]")
      else .error .notFound
    let input := Text.Utf8.encode "720\n"
    ∃ document logJson errors,
      run ["--state=Florida"] disk [] input 37 =
        .finished 0 ("Enter the credit score: Final interest rate for 7-1 ARM: 5\n" ++
          "Product disqualified: True\n") logJson errors ∧
      run ["--json", "--state=Florida", "--trace"] disk [] input 2000 =
        .finished 0 ("Enter the credit score: " ++ document ++ "\n") logJson errors ∧
      (Document.read document).bind Summary.ofDocument? = some {
        name := "7-1 ARM", rate := some "5.0".toList, state := "Florida", creditScore := 720
        disqualified := true, diagnostics := [], matchedRules := [0]
        trace := ["rules[0]: if state == florida then disqualify => MATCHED, APPLIED"] } ∧
      (Document.read document).bind (Document.under "evaluation_time_us" Document.nat?) =
        some 2000 := by
  intro disk input
  let env : Config.Variables := []
  let o : Options := { state := some "Florida" }
  let e : Evaluation := {
    report := {
      rulesEvaluated := 1, matchedRules := [0], diagnostics := []
      trace := ["rules[0]: if state == florida then disqualify => MATCHED, APPLIED"] }
    product := {
      name := "7-1 ARM", interestRate := 5.0, state := "Florida", creditScore := 720
      disqualified := true } }
  have hreads : Reads ["--state=Florida"] [.value .state "state" "Florida"] :=
    .joined (by decide) rfl .done
  have hreads' : Reads ["--json", "--state=Florida", "--trace"]
      [.flag .json "json", .value .state "state" "Florida", .flag .trace "trace"] :=
    .flag (by decide) rfl rfl (.joined (by decide) rfl (.flag (by decide) rfl rfl .done))
  have hparse : parse _ (env.lookup "CONFIG_DIR") = .ok o :=
    parse_eq_ok_iff.mpr ⟨_, parseFrom_eq_ok_iff.mpr ⟨_, hreads, rfl⟩, rfl⟩
  have hparse' : parse _ (env.lookup "CONFIG_DIR") = .ok (o.showing true true) :=
    parse_eq_ok_iff.mpr ⟨_, parseFrom_eq_ok_iff.mpr ⟨_, hreads', rfl⟩, rfl⟩
  have he : (o.showing true true).evaluation? disk [] input = some e := by decide +kernel
  have hcode : (run ["--state=Florida"] disk [] input 37).code = 0 := by decide +kernel
  obtain ⟨-, -, hforms⟩ := run_showing hparse disk input 37
  obtain ⟨e', logJson, errors, he', htimes⟩ := hforms hcode
  obtain rfl : e = e' := Option.some.inj (he.symm.trans he')
  obtain ⟨_, _, -, -, -, hplain⟩ := htimes 37
  obtain ⟨document, untraced, hread, htime, -, hruns⟩ := htimes 2000
  refine ⟨document, logJson, errors, ?_, ?_, ?_, htime⟩
  · rw [hplain _ false false hparse]
    have htext : o.prompts ++ plainText [] e.product =
        "Enter the credit score: Final interest rate for 7-1 ARM: 5\n" ++
          "Product disqualified: True\n" := by decide +kernel
    exact congrArg (fun output => Outcome.finished 0 output logJson errors) htext
  · rw [hruns _ true true hparse', String.append_assoc]
    rfl
  · rw [hread]
    decide +kernel

end CommandLine

end LoanPricing
