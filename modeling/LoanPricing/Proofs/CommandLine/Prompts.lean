import LoanPricing.CommandLine.Run
import LoanPricing.Proofs.CommandLine.Changes
import LoanPricing.Proofs.Config.Fields
import LoanPricing.Proofs.Text.Lines

/-!
# Prompts — answers instead of options

What the command line does not say about the borrower is asked for, first the state and then the
credit score. A run that is answered does what it would have done with the answers as options; only
its output begins with the prompts.
-/

namespace LoanPricing.CommandLine

/-! ## 1. Accepted command lines -/

/-- The setup of a run with a configuration. -/
def Options.setup (o : Options) (env : Config.Variables) (config : Config.Configuration) :
    Setup where
  options := o
  config := config
  filter := Log.Filter.choose (env.lookup "RUST_LOG") config.logging.level

variable {args : List String} {disk : Disk} {env : Config.Variables} {o : Options}
  {config : Config.Configuration} {elapsed elapsed' : UInt64}

/-- Without a configuration a run ends before it asks for anything. -/
theorem run_of_configError {e : Config.ConfigError}
    (hparse : parse args (env.lookup "CONFIG_DIR") = .ok o)
    (hload : Config.load disk o.configDir env = .error e) (input : List UInt8) :
    run args disk env input elapsed = .finished 1 "" false (configurationFailure e) := by
  simp only [run, prepare, hparse, hload]

theorem run_of_config (hparse : parse args (env.lookup "CONFIG_DIR") = .ok o)
    (hload : Config.load disk o.configDir env = .ok config) (input : List UInt8) :
    run args disk env input elapsed =
      (o.setup env config).conclude disk (askBorrower o input).1 (askBorrower o input).2
        elapsed := by
  simp only [run, prepare, hparse, hload]
  rfl

/-! ## 2. Prompts and answers -/

namespace Options

/-- The prompts for what is not given. -/
def prompts (o : Options) : String :=
  (if o.state.isNone then statePrompt else "") ++ if o.creditScore.isNone then scorePrompt else ""

/-- The options with a state and a credit score, unless they are given. -/
def answered (o : Options) (state score : String) : Options :=
  { o with state := some (o.state.getD state), creditScore := some (o.creditScore.getD score) }

/-- Lines for what is not given, and what follows them. -/
def answers (o : Options) (state score : String) (stateEnd scoreEnd : Text.LineEnd)
    (rest : List UInt8) : List UInt8 :=
  (if o.state.isNone then Text.lineBytes state stateEnd else []) ++
    ((if o.creditScore.isNone then Text.lineBytes score scoreEnd else []) ++ rest)

/-- Arguments for what is not given. -/
def answerArguments (o : Options) (state score : String) : List String :=
  (if o.state.isNone then [argumentOf "state" state] else []) ++
    if o.creditScore.isNone then [argumentOf "credit-score" score] else []

end Options

/-- A line is the answer to a prompt for what is not given. -/
theorem ask_lineBytes (prompt : String) (given : Option String) {answer : String}
    (h : Text.IsLine answer) (ending : Text.LineEnd) (rest : List UInt8) :
    ask prompt given ((if given.isNone then Text.lineBytes answer ending else []) ++ rest) =
      (if given.isNone then prompt else "", given.getD answer, rest) := by
  cases given with
  | some value => rfl
  | none => simp only [ask, Option.isNone_none, if_true, Text.nextAnswer_lineBytes h,
      Option.getD_none]

theorem askBorrower_answers {state score : String} (hstate : Text.IsLine state)
    (hscore : Text.IsLine score) (stateEnd scoreEnd : Text.LineEnd) (rest : List UInt8) :
    askBorrower o (o.answers state score stateEnd scoreEnd rest) =
      (o.prompts, { state := o.state.getD state, creditScore := o.creditScore.getD score }) := by
  simp only [askBorrower, Options.answers, ask_lineBytes _ _ hstate, ask_lineBytes _ _ hscore,
    Options.prompts]

theorem askBorrower_answered (state score : String) (input : List UInt8) :
    askBorrower (o.answered state score) input =
      ("", { state := o.state.getD state, creditScore := o.creditScore.getD score }) := rfl

/-- The answers can be given as arguments. -/
theorem parse_answerArguments {dir : Option String} (h : parse args dir = .ok o)
    (state score : String) :
    parse (o.answerArguments state score ++ args) dir = .ok (o.answered state score) := by
  have hscore : parse
      ((if o.creditScore.isNone then [argumentOf "credit-score" score] else []) ++ args) dir =
        .ok { o with creditScore := some (o.creditScore.getD score) } := by
    cases hgiven : o.creditScore with
    | some given =>
      have heta : { o with creditScore := some given } = o := by rw [← hgiven]
      exact h.trans (congrArg Except.ok heta.symm)
    | none =>
      have hfree : o.given .creditScore = false :=
        Option.isSome_eq_false_iff.mpr (by rw [hgiven]; rfl)
      exact parse_argumentOf h "credit-score" score (by decide) rfl (by decide) hfree rfl
  rw [Options.answerArguments, List.append_assoc]
  cases hgiven : o.state with
  | some given =>
    have heta : o.answered state score =
        { o with creditScore := some (o.creditScore.getD score) } := by
      simp only [Options.answered, hgiven, Option.getD_some]
    exact hscore.trans (congrArg Except.ok heta.symm)
  | none =>
    have hfree : o.given .state = false := Option.isSome_eq_false_iff.mpr (by rw [hgiven]; rfl)
    have hstate := parse_argumentOf hscore "state" state (by decide) rfl (by decide) hfree rfl
    have heta : o.answered state score =
        { o with state := some state, creditScore := some (o.creditScore.getD score) } := by
      simp only [Options.answered, hgiven, Option.getD_none]
    exact hstate.trans (congrArg Except.ok heta.symm)

/-! ## 3. Outcomes -/

/-- The outcome of a run that has written something before. -/
def Outcome.after (written : String) : Outcome → Outcome
  | .usage error => .usage error
  | .finished code output json errors => .finished code (written ++ output) json errors

/-- What a run does with a borrower does not depend on where it got to know the borrower. -/
theorem conclude_answered (state score : String) (written : String) (borrower : Borrower) :
    (o.setup env config).conclude disk written borrower elapsed =
      (((o.answered state score).setup env config).conclude disk "" borrower elapsed).after
        written := by
  have hprice : ((o.answered state score).setup env config).price disk borrower elapsed =
      (o.setup env config).price disk borrower elapsed := rfl
  simp only [Setup.conclude, Outcome.after, hprice, String.empty_append]
  rfl

/-- Plain lines do not show how long applying the rules took. -/
theorem conclude_congr_elapsed {s : Setup} (hjson : s.options.json = false) (written : String)
    (borrower : Borrower) :
    s.conclude disk written borrower elapsed' = s.conclude disk written borrower elapsed := by
  have hprice : s.price disk borrower elapsed' = s.price disk borrower elapsed := by
    simp only [Setup.price, resultText, hjson, Bool.false_eq_true, if_false]
  rw [Setup.conclude, Setup.conclude, hprice]

/-- **Answers are as good as options.** A run of a command line whose prompts are answered in turn,
each in a line of its own, has the outcome of a run with the answers as options, the prompts before
its output aside; and there is always such a command line. If the runs show how long applying the
rules took, which they do in JSON only, it must be as long in both. If there is no configuration the
outcome is the same altogether. -/
theorem run_answers (hparse : parse args (env.lookup "CONFIG_DIR") = .ok o) {state score : String}
    (hstate : Text.IsLine state) (hscore : Text.IsLine score) :
    parse (o.answerArguments state score ++ args) (env.lookup "CONFIG_DIR") =
        .ok (o.answered state score) ∧
      ∀ args', parse args' (env.lookup "CONFIG_DIR") = .ok (o.answered state score) →
        ∀ stateEnd scoreEnd rest input' elapsed elapsed', (o.json = true → elapsed' = elapsed) →
          let prompted := run args disk env (o.answers state score stateEnd scoreEnd rest) elapsed
          let direct := run args' disk env input' elapsed'
          (∀ e, Config.load disk o.configDir env = .error e → prompted = direct) ∧
          ∀ config, Config.load disk o.configDir env = .ok config →
            prompted = direct.after o.prompts := by
  refine ⟨parse_answerArguments hparse state score, ?_⟩
  intro args' hparse' stateEnd scoreEnd rest input' elapsed elapsed' helapsed prompted direct
  refine ⟨fun e hload => ?_, fun config hload => ?_⟩
  · exact (run_of_configError hparse hload _).trans (run_of_configError hparse' hload _).symm
  · have hprompted : prompted = _ := run_of_config hparse hload _
    have hdirect : direct = _ := run_of_config hparse' hload _
    rw [hprompted, hdirect, askBorrower_answers hstate hscore, askBorrower_answered,
      conclude_answered state score o.prompts]
    cases hjson : o.json with
    | false => exact congrArg (Outcome.after o.prompts) (conclude_congr_elapsed hjson _ _)
    | true => rw [helapsed hjson]

/-- Both questions are asked; the first answer ends like a line of another system, and something
that nobody asks for follows the second one. The result is shown as JSON, with the time that the
rules took, though there are none in the file. -/
theorem run_answers_florida :
    let disk : Disk := fun path =>
      if path = "rules.json" then .ok (Text.Utf8.encode "[]") else .error .notFound
    let input := Text.Utf8.encode "Florida\r\n720\n?"
    run ["--json"] disk [] input 37 =
      (run ["--state=Florida", "--credit-score=720", "--json"] disk [] [] 37).after
        "Enter the state: Enter the credit score: " := by
  intro disk input
  have hreads : Reads ["--json"] [.flag .json "json"] := .flag (by decide) rfl rfl .done
  have hparse : parse ["--json"] (List.lookup "CONFIG_DIR" ([] : Config.Variables)) =
      .ok { json := true } :=
    parse_eq_ok_iff.mpr ⟨_, parseFrom_eq_ok_iff.mpr ⟨_, hreads, rfl⟩, rfl⟩
  have hload : Config.load disk "config" [] = .ok {} :=
    Config.toOption_eq_some_iff.mp (by decide +kernel)
  obtain ⟨hgiven, hanswers⟩ :=
    @run_answers _ disk _ _ hparse "Florida" "720" (by decide) (by decide)
  have hargs : ({ json := true } : Options).answerArguments "Florida" "720" ++ ["--json"] =
      ["--state=Florida", "--credit-score=720", "--json"] := by decide
  have hinput : ({ json := true } : Options).answers "Florida" "720" .crlf .lf [0x3F] = input := by
    decide +kernel +zetaReduce
  have hprompts : ({ json := true } : Options).prompts =
      "Enter the state: Enter the credit score: " := by decide
  have houtcome := (hanswers _ hgiven .crlf .lf [0x3F] [] 37 37 fun _ => rfl).2 {} hload
  rw [hargs, hprompts, hinput] at houtcome
  exact houtcome

end LoanPricing.CommandLine
