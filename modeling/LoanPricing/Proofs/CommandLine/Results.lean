import LoanPricing.Proofs.CommandLine.ExitCodes
import LoanPricing.Proofs.Json.Pretty
import LoanPricing.Proofs.Rules.Visits

/-!
# Results — what the JSON output of a run tells

The output of a run that shows its result as JSON is one JSON text and a line feed. Who reads the
text learns of the product all but a rate that is not finite, and of the report everything that was
traced, matched and diagnosed, whatever strings there are in it and however long it took.
-/

namespace LoanPricing

open Json

/-! ## 1. Reading documents by their keys -/

namespace Json.Document

def text? : Document → Option String
  | text s => some s
  | _ => none

def flag? : Document → Option Bool
  | flag b => some b
  | _ => none

def int? : Document → Option Int
  | number cs => Text.int? cs
  | _ => none

def nat? (d : Document) : Option Nat :=
  d.int?.bind Int.toNat?

/-- The text of a number, or that there is none. -/
def number? : Document → Option (Option (List Char))
  | null => some none
  | number cs => some (some cs)
  | _ => none

def list? {α : Type} (item? : Document → Option α) : Document → Option (List α)
  | list ds => ds.mapM item?
  | _ => none

/-- What is read of the document under a key. -/
def under {α : Type} (key : String) (read? : Document → Option α) (d : Document) : Option α :=
  (d.member? key).bind read?

end Json.Document

/-- The diagnostic that an object describes by its kind. -/
def Diagnostic.ofDocument? (d : Document) : Option Diagnostic := do
  let kind ← d.under "kind" Document.text?
  if kind = "rules_not_loaded" then pure .rulesNotLoaded
  else if kind = "unknown_condition" then
    pure (.unknownCondition (← d.under "rule_index" Document.nat?) (← d.under "tag" Document.text?))
  else if kind = "unknown_action" then
    pure (.unknownAction (← d.under "rule_index" Document.nat?) (← d.under "tag" Document.text?))
  else none

/-- What can be learnt from the JSON text of a result. -/
structure Summary where
  name : String
  /-- The text of the rate, if it has one. -/
  rate : Option (List Char)
  state : String
  creditScore : Int
  disqualified : Bool
  diagnostics : List Diagnostic
  matchedRules : List Nat
  trace : List String
  deriving DecidableEq, Repr

namespace Summary

def ofDocument? (d : Document) : Option Summary := do
  let product ← d.member? "product"
  pure {
    name := ← product.under "name" Document.text?
    rate := ← product.under "interest_rate" Document.number?
    state := ← product.under "state" Document.text?
    creditScore := ← product.under "credit_score" Document.int?
    disqualified := ← product.under "disqualified" Document.flag?
    diagnostics := ← d.under "diagnostics" (Document.list? Diagnostic.ofDocument?)
    matchedRules := ← d.under "matched_rules" (Document.list? Document.nat?)
    trace := ← d.under "evaluation_trace" (Document.list? Document.text?) }

/-- What there is to learn about an evaluation. -/
def ofEvaluation (e : Evaluation) : Summary where
  name := e.product.name
  rate := if e.product.interestRate.isFinite then some (Decimal.json e.product.interestRate) else none
  state := e.product.state
  creditScore := e.product.creditScore.toInt
  disqualified := e.product.disqualified
  diagnostics := e.report.diagnostics
  matchedRules := e.report.matchedRules
  trace := e.report.trace

end Summary

/-! ## 2. The document of a result -/

namespace Json

theorem text?_sortedDocument (s : String) : (Value.text s).sortedDocument.text? = some s := rfl

theorem flag?_sortedDocument (b : Bool) : (Value.flag b).sortedDocument.flag? = some b := rfl

theorem int?_sortedDocument (n : Int) : (Value.int n).sortedDocument.int? = some n := by
  show Text.int? (Text.ofInt n) = some n
  exact int?_ofInt n

theorem nat?_sortedDocument (n : Nat) : (Value.nat n).sortedDocument.nat? = some n := by
  rw [Document.nat?, Value.nat, int?_sortedDocument]
  rfl

theorem number?_sortedDocument (x : Float) :
    (Value.number x).sortedDocument.number? =
      some (if x.isFinite then some (Decimal.json x) else none) := by
  show (if x.isFinite then Document.number (Decimal.json x) else .null).number? = _
  split <;> rfl

theorem mapM_map_some {α β : Type} {f : α → β} {g : β → Option α} (h : ∀ a, g (f a) = some a)
    (xs : List α) : (xs.map f).mapM g = some xs := by
  induction xs with
  | nil => rfl
  | cons x xs ih =>
    rw [List.map_cons, List.mapM_cons, h, ih]
    rfl

/-- A list is read item by item. -/
theorem list?_sortedDocument {α : Type} {write : α → Value} {read? : Document → Option α}
    (h : ∀ a, read? (write a).sortedDocument = some a) (xs : List α) :
    (Value.list (xs.map write)).sortedDocument.list? read? = some xs := by
  rw [Value.sortedDocument_list, Document.list?, List.map_map]
  exact mapM_map_some h xs

/-- What is written under a key is read under it. -/
theorem under_sortedDocument {α : Type} {ms : List (String × Value)} {key : String} {v : Value}
    {read? : Document → Option α} {a : α} (hkeys : (ms.map Prod.fst).Nodup)
    (hv : ms.lookup key = some v) (hread : read? v.sortedDocument = some a) :
    (Value.object ms).sortedDocument.under key read? = some a := by
  rw [Document.under, Value.member?_sortedDocument hkeys, hv]
  exact hread

end Json

namespace Diagnostic

/-- The document of a diagnostic about a tag is read by its three keys. -/
theorem under_unknown (kind tag : String) (rule : Nat) :
    let d := (Value.object
      [("kind", .text kind), ("rule_index", .nat rule), ("tag", .text tag)]).sortedDocument
    d.under "kind" Document.text? = some kind ∧ d.under "rule_index" Document.nat? = some rule ∧
      d.under "tag" Document.text? = some tag := by
  have hkeys : ["kind", "rule_index", "tag"].Nodup := by decide
  exact ⟨under_sortedDocument hkeys rfl (text?_sortedDocument kind),
    under_sortedDocument hkeys rfl (nat?_sortedDocument rule),
    under_sortedDocument hkeys rfl (text?_sortedDocument tag)⟩

theorem ofDocument?_toJson (d : Diagnostic) : ofDocument? d.toJson.sortedDocument = some d := by
  cases d with
  | rulesNotLoaded =>
    have hkind : (toJson .rulesNotLoaded).sortedDocument.under "kind" Document.text? =
        some "rules_not_loaded" := by
      have hkeys : ["kind"].Nodup := by decide
      exact under_sortedDocument hkeys rfl (text?_sortedDocument _)
    rw [ofDocument?, hkind]
    rfl
  | unknownCondition rule tag =>
    obtain ⟨hkind, hrule, htag⟩ := under_unknown "unknown_condition" tag rule
    rw [ofDocument?, toJson, hkind, hrule, htag]
    rfl
  | unknownAction rule tag =>
    obtain ⟨hkind, hrule, htag⟩ := under_unknown "unknown_action" tag rule
    rw [ofDocument?, toJson, hkind, hrule, htag]
    rfl

end Diagnostic

/-- The document of a product is read by its keys. -/
theorem Product.under_toJson (p : Product) :
    let d := p.toJson.sortedDocument
    d.under "name" Document.text? = some p.name ∧
      d.under "interest_rate" Document.number? =
        some (if p.interestRate.isFinite then some (Decimal.json p.interestRate) else none) ∧
      d.under "state" Document.text? = some p.state ∧
      d.under "credit_score" Document.int? = some p.creditScore.toInt ∧
      d.under "disqualified" Document.flag? = some p.disqualified := by
  have hkeys : ["name", "interest_rate", "state", "credit_score", "disqualified"].Nodup := by decide
  exact ⟨under_sortedDocument hkeys rfl (text?_sortedDocument _),
    under_sortedDocument hkeys rfl (number?_sortedDocument _),
    under_sortedDocument hkeys rfl (text?_sortedDocument _),
    under_sortedDocument hkeys rfl (int?_sortedDocument _),
    under_sortedDocument hkeys rfl (flag?_sortedDocument _)⟩

namespace CommandLine

theorem nodup_resultKeys :
    ["product", "diagnostics", "matched_rules", "evaluation_trace",
      "evaluation_time_us"].Nodup := by
  decide

/-- The document of a result tells what there is to learn about its evaluation. -/
theorem ofDocument?_resultJson (time : UInt64) (e : Evaluation) :
    Summary.ofDocument? (resultJson time e).sortedDocument = some (Summary.ofEvaluation e) := by
  have hkeys := nodup_resultKeys
  have hproduct : (resultJson time e).sortedDocument.member? "product" =
      some e.product.toJson.sortedDocument :=
    Value.member?_sortedDocument hkeys
  have hdiagnostics : (resultJson time e).sortedDocument.under "diagnostics"
      (Document.list? Diagnostic.ofDocument?) = some e.report.diagnostics :=
    under_sortedDocument hkeys rfl (list?_sortedDocument Diagnostic.ofDocument?_toJson _)
  have hmatched : (resultJson time e).sortedDocument.under "matched_rules"
      (Document.list? Document.nat?) = some e.report.matchedRules :=
    under_sortedDocument hkeys rfl (list?_sortedDocument nat?_sortedDocument _)
  have htrace : (resultJson time e).sortedDocument.under "evaluation_trace"
      (Document.list? Document.text?) = some e.report.trace :=
    under_sortedDocument hkeys rfl (list?_sortedDocument text?_sortedDocument _)
  obtain ⟨hname, hrate, hstate, hscore, hflag⟩ := e.product.under_toJson
  simp only [Summary.ofDocument?, hproduct, Option.bind_eq_bind, Option.bind_some, hname, hrate,
    hstate, hscore, hflag, hdiagnostics, hmatched, htrace]
  rfl

theorem time_resultJson (time : UInt64) (e : Evaluation) :
    (resultJson time e).sortedDocument.under "evaluation_time_us" Document.nat? =
      some time.toNat :=
  under_sortedDocument nodup_resultKeys rfl (nat?_sortedDocument _)

end CommandLine

/-! ## 3. Times -/

/-- The time that is shown for an evaluation, when `elapsed` microseconds went by while the rules
were applied: none if there were no rules. -/
def Evaluation.time (e : Evaluation) (elapsed : UInt64) : UInt64 :=
  if .rulesNotLoaded ∈ e.report.diagnostics then 0 else elapsed

theorem time_evaluate (tracing : Bool) (rules : Option RuleSet) (p : Product) (elapsed : UInt64) :
    (evaluate tracing rules p).value.time elapsed = evaluationTime rules elapsed := by
  cases rules with
  | none => rfl
  | some set =>
    refine if_neg fun h => ?_
    rw [evaluate_value] at h
    obtain ⟨v, -, hv⟩ := List.mem_filterMap.mp h
    exact Visit.diagnostic?_ne_rulesNotLoaded hv rfl

namespace CommandLine

/-! ## 4. Runs that show their result as JSON -/

/-- The evaluation that a run with a setup comes to for a borrower. -/
def Setup.evaluation (s : Setup) (disk : Disk) (state : String) (creditScore : Int32) :
    Evaluation :=
  (evaluate s.options.trace (RuleSet.loadOrReport s.mode disk s.rulesPath).value
    (productOf s.options state creditScore)).value

/-- The evaluation that a run comes to, if it comes to one. -/
def Options.evaluation? (o : Options) (disk : Disk) (env : Config.Variables)
    (input : List UInt8) : Option Evaluation := do
  let config ← (Config.load disk o.configDir env).toOption
  let creditScore ← score? (o.scoreText input)
  pure ((o.setup env config).evaluation disk (askBorrower o input).2.state creditScore)

variable {args : List String} {disk : Disk} {env : Config.Variables} {o : Options}
  {input : List UInt8} {elapsed : UInt64} {output : String} {json : Bool}
  {errors : List Log.Output}

theorem price_value_of_accepted (s : Setup) (disk : Disk) {borrower : Borrower} {n : Int32}
    (h : score? borrower.creditScore = some n) :
    let e := s.evaluation disk borrower.state n
    (s.price disk borrower elapsed).value = (0, resultText s.options.json (e.time elapsed) e) := by
  intro e
  simp only [Setup.price, parseCreditScore_of_some h, Log.Logged.value_bind]
  rw [← time_evaluate s.options.trace _ (productOf s.options borrower.state n)]
  rfl

/-- A run that ends well writes the prompts and the text of its evaluation. -/
theorem output_of_run (hparse : parse args (env.lookup "CONFIG_DIR") = .ok o)
    (hrun : run args disk env input elapsed = .finished 0 output json errors) :
    ∃ e, o.evaluation? disk env input = some e ∧
      output = o.prompts ++ resultText o.json (e.time elapsed) e := by
  cases hload : Config.load disk o.configDir env with
  | error e =>
    -- the run has ended with another code
    rw [run_of_configError hparse hload] at hrun
    injection hrun with hcode
    exact absurd hcode (by decide)
  | ok config =>
    rw [run_of_config hparse hload, Setup.conclude, askBorrower_fst] at hrun
    injection hrun with hcode houtput
    have hscore := creditScore_askBorrower o input
    cases haccepted : score? (o.scoreText input) with
    | none =>
      -- and here too, at a score that is no number
      rw [← hscore] at haccepted
      rw [price_of_rejected _ disk haccepted] at hcode
      exact absurd hcode (by decide)
    | some n =>
      refine ⟨(o.setup env config).evaluation disk (askBorrower o input).2.state n, ?_, ?_⟩
      · rw [Options.evaluation?, hload, haccepted]
        rfl
      · rw [← hscore] at haccepted
        rw [← houtput, price_value_of_accepted _ disk haccepted]
        rfl

/-- **The JSON output loses nothing.** A run that ends well and shows its result as JSON writes the
prompts, one JSON text and a line feed. Reading the text gives the product of the evaluation, its
rate as a number exactly when it is finite, and the diagnostics, the places of the rules that
matched and the lines of the trace, each in order; and it gives the time that applying the rules
took, if there were any. So another such run that writes the same text came to a product and a
report that are the same in all of this. -/
theorem run_json (hparse : parse args (env.lookup "CONFIG_DIR") = .ok o) (hjson : o.json = true)
    (hrun : run args disk env input elapsed = .finished 0 output json errors) :
    ∃ e document, o.evaluation? disk env input = some e ∧
      output = o.prompts ++ document ++ "\n" ∧ IsValue document.toList ∧
      (Document.read document).bind Summary.ofDocument? = some (Summary.ofEvaluation e) ∧
      ((Summary.ofEvaluation e).rate = none ↔ e.product.interestRate.isFinite = false) ∧
      (Document.read document).bind (Document.under "evaluation_time_us" Document.nat?) =
        some (e.time elapsed).toNat ∧
      ∀ args' disk' env' o' input' elapsed' json' errors',
        parse args' (List.lookup "CONFIG_DIR" env') = .ok o' → o'.json = true →
        run args' disk' env' input' elapsed' =
          .finished 0 (o'.prompts ++ document ++ "\n") json' errors' →
        ∃ e', o'.evaluation? disk' env' input' = some e' ∧
          e'.product.name = e.product.name ∧ e'.product.state = e.product.state ∧
          e'.product.creditScore = e.product.creditScore ∧
          e'.product.disqualified = e.product.disqualified ∧
          e'.report.diagnostics = e.report.diagnostics ∧
          e'.report.matchedRules = e.report.matchedRules ∧ e'.report.trace = e.report.trace := by
  obtain ⟨e, he, houtput⟩ := output_of_run hparse hrun
  refine ⟨e, (resultJson (e.time elapsed) e).pretty, he, ?_, Value.isValue_pretty _, ?_, ?_, ?_, ?_⟩
  · rw [houtput, hjson, resultText, if_pos rfl, String.append_assoc]
  · rw [Value.read_pretty, Option.bind_some, ofDocument?_resultJson]
  · cases hfinite : e.product.interestRate.isFinite <;> simp [Summary.ofEvaluation, hfinite]
  · rw [Value.read_pretty, Option.bind_some, time_resultJson]
  · intro args' disk' env' o' input' elapsed' json' errors' hparse' hjson' hrun'
    obtain ⟨e', he', houtput'⟩ := output_of_run hparse' hrun'
    refine ⟨e', he', ?_⟩
    rw [hjson', resultText, if_pos rfl, String.append_assoc] at houtput'
    -- a summary is read of the text alone, so that texts tell evaluations apart
    have hsame : Summary.ofEvaluation e' = Summary.ofEvaluation e := by
      have htext : (resultJson (e'.time elapsed') e').pretty =
          (resultJson (e.time elapsed) e).pretty :=
        (String.append_left_inj _).mp ((String.append_right_inj _).mp houtput').symm
      have hdocument : (resultJson (e'.time elapsed') e').sortedDocument =
          (resultJson (e.time elapsed) e).sortedDocument :=
        Option.some.inj (by rw [← Value.read_pretty, htext, Value.read_pretty])
      exact Option.some.inj (by
        rw [← ofDocument?_resultJson (e'.time elapsed') e', hdocument, ofDocument?_resultJson])
    simp only [Summary.ofEvaluation, Summary.mk.injEq, Int32.toInt_inj] at hsame
    obtain ⟨hname, -, hstate, hscore, hflag, hdiagnostics, hmatched, htrace⟩ := hsame
    exact ⟨hname, hstate, hscore, hflag, hdiagnostics, hmatched, htrace⟩

/-- A name with quotes, a backslash and a tab, a rate that is not a number, a rule with a line feed
in its unknown tag, and the longest time there is. -/
theorem run_json_escapes :
    let disk : Disk := fun path =>
      if path = "rules.json" then .ok (Text.Utf8.encode "[[\"Florida\",\"☃\\n\"]]")
      else .error .notFound
    let args := ["--json", "--trace", "--name=\"7\\1\"\t", "--rate=NaN", "--state=florida",
      "--credit-score=720"]
    ∃ document json errors,
      run args disk [] [] 0xFFFFFFFFFFFFFFFF = .finished 0 (document ++ "\n") json errors ∧
      IsValue document.toList ∧
      (Document.read document).bind (Document.under "evaluation_time_us" Document.nat?) =
        some 0xFFFFFFFFFFFFFFFF ∧
      (Document.read document).bind Summary.ofDocument? = some {
        name := "\"7\\1\"\t", rate := none, state := "florida", creditScore := 720
        disqualified := false, diagnostics := [.unknownAction 0 "☃\n"], matchedRules := [0]
        trace := ["rules[0]: if state == florida then unknown(☃\n) => MATCHED, NO_EFFECT"] } := by
  intro disk args
  let o : Options := { json := true, trace := true, name := some "\"7\\1\"\t"
                       rate := some (0.0 / 0.0), state := some "florida"
                       creditScore := some "720" }
  have hparse : parse args (List.lookup "CONFIG_DIR" ([] : Config.Variables)) = .ok o := by
    obtain ⟨_, hparse, rfl⟩ :=
      eq_ok_of_toOption_map (f := id) (by decide +kernel : (parse args none).toOption.map id = some o)
    exact hparse
  have hcode : (run args disk [] [] 0xFFFFFFFFFFFFFFFF).code = 0 := by decide +kernel
  cases hrun : run args disk [] [] 0xFFFFFFFFFFFFFFFF with
  | usage =>
    rw [hrun] at hcode
    cases hcode
  | finished code output json errors =>
    rw [hrun] at hcode
    obtain rfl : code = 0 := hcode
    obtain ⟨e, document, he, rfl, hvalue, hread, -, htime, -⟩ := run_json hparse rfl hrun
    have hsummary : (o.evaluation? disk [] []).map Summary.ofEvaluation = some {
        name := "\"7\\1\"\t", rate := none, state := "florida", creditScore := 720
        disqualified := false, diagnostics := [.unknownAction 0 "☃\n"], matchedRules := [0]
        trace := ["rules[0]: if state == florida then unknown(☃\n) => MATCHED, NO_EFFECT"] } := by
      decide +kernel
    have hprompts : o.prompts = "" := by decide
    rw [he] at hsummary
    have hdiagnostics : e.report.diagnostics = [.unknownAction 0 "☃\n"] :=
      congrArg Summary.diagnostics (Option.some.inj hsummary)
    have hloaded : .rulesNotLoaded ∉ e.report.diagnostics := by
      rw [hdiagnostics]
      decide
    rw [Evaluation.time, if_neg hloaded] at htime
    rw [hprompts, String.empty_append]
    exact ⟨document, json, errors, rfl, hvalue, htime, hread.trans hsummary⟩

end CommandLine

end LoanPricing
