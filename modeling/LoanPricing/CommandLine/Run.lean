import LoanPricing.CommandLine.Options
import LoanPricing.Config.Configuration
import LoanPricing.Log.Record
import LoanPricing.Rules.Evaluate
import LoanPricing.Text.Blank
import LoanPricing.Text.Lines

/-!
# Runs — the program from its arguments to its exit code

A run reads its options and its configuration, asks for what the options do not say, loads the
rules and prices one product. What it writes to its output is one text; what it writes to the error
stream is the log, with the lines for the user in their places. The time that applying the rules
takes is an input of a run like the others: it is measured, and JSON output shows it.

* A command line that cannot be read ends the run with code 2 before anything is written.
* A configuration that cannot be read ends it with code 1.
* A credit score that is no number ends it with code 2.
* Everything else ends with code 0, also when there are no rules.
-/

namespace LoanPricing.CommandLine

open Log (Logged)

def versionText : String := "pricing-engine 0.1.0\n"

def helpText (configDir : Option String) : String :=
  "Apply loan pricing rules to a product\n\n" ++
  "Usage: pricing-engine [OPTIONS]\n\n" ++
  "Options:\n" ++
  "      --rules <RULES>                Path to the pricing rules JSON file (overrides config)\n" ++
  "      --config <CONFIG>              Configuration directory [env: CONFIG_DIR=" ++
    configDir.getD "" ++ "] [default: config]\n" ++
  "      --name <NAME>                  Product name [default: \"7-1 ARM\"]\n" ++
  "      --rate <RATE>                  Base interest rate [default: 5]\n" ++
  "      --state <STATE>                Borrower state; prompted when absent\n" ++
  "      --credit-score <CREDIT_SCORE>  Borrower credit score; prompted when absent\n" ++
  "      --strict                       Reject rules with unknown condition or action tags at load " ++
    "time\n" ++
  "      --json                         Print the result as JSON\n" ++
  "      --trace                        Include a per-rule evaluation trace in the output\n" ++
  "  -h, --help                         Print help\n" ++
  "  -V, --version                      Print version\n"

inductive Outcome where
  /-- The command line cannot be read. -/
  | usage (error : UsageError)
  /-- The run ends with a code, having written to its output and its error stream. -/
  | finished (code : Nat) (output : String) (json : Bool) (errors : List Log.Output)
  deriving DecidableEq, Repr

def Outcome.code : Outcome → Nat
  | usage _ => 2
  | finished code .. => code

/-- What a run works with once its options and its configuration are read. -/
structure Setup where
  options : Options
  config : Config.Configuration
  filter : Log.Filter
  deriving DecidableEq, Repr

def Options.configDir (o : Options) : String :=
  o.config.getD "config"

/-- The lines about a configuration that cannot be read. Every line of the cause is indented. -/
def configurationFailure (e : Config.ConfigError) : List Log.Output :=
  (["Error: failed to load configuration", "", "Caused by:"] ++
    (e.message.splitOn "\n").map ("    " ++ ·)).map .print

/-- The setup of a run, or its outcome if it ends before it has one. -/
def prepare (args : List String) (disk : Disk) (env : Config.Variables) :
    Except Outcome Setup :=
  let configDir := env.lookup "CONFIG_DIR"
  match parse args configDir with
  | .error (.usage e) => .error (.usage e)
  | .error .version => .error (.finished 0 versionText false [])
  | .error .help => .error (.finished 0 (helpText configDir) false [])
  | .ok options =>
    match Config.load disk options.configDir env with
    | .error e => .error (.finished 1 "" false (configurationFailure e))
    | .ok config =>
      let filter := Log.Filter.choose (env.lookup "RUST_LOG") config.logging.level
      .ok { options, config, filter }

def Setup.rulesPath (s : Setup) : String :=
  s.options.rules.getD s.config.rules.path

/-- Whether tags outside the vocabulary are refused: if the options or the configuration say so. -/
def Setup.mode (s : Setup) : Mode :=
  Mode.ofFlag (s.options.strict || s.config.rules.strictTags)

/-- What a run knows about the borrower. -/
structure Borrower where
  state : String
  creditScore : String
  deriving DecidableEq, Repr

def statePrompt : String := "Enter the state: "

def scorePrompt : String := "Enter the credit score: "

/-- A value that is given, or else the next answer to a prompt: what is written, the value, and
the rest of the input. -/
def ask (prompt : String) (given : Option String) (input : List UInt8) :
    String × String × List UInt8 :=
  match given with
  | some value => ("", value, input)
  | none =>
    let (answer, rest) := Text.nextAnswer input
    (prompt, answer, rest)

/-- The borrower of a run, with what is written to ask for it. -/
def askBorrower (o : Options) (input : List UInt8) : String × Borrower :=
  let (written, state, rest) := ask statePrompt o.state input
  let (more, creditScore, _) := ask scorePrompt o.creditScore rest
  (written ++ more, { state, creditScore })

/-- The credit score that a text spells, white space around it aside. -/
def parseCreditScore (text : String) : Except RuleError Int32 :=
  match Text.int32? (Text.trim text.toList) with
  | some n => .ok n
  | none => .error (.invalidInput ("credit score '" ++ text ++ "' is not a number"))

/-- The product that a run prices. -/
def productOf (o : Options) (state : String) (creditScore : Int32) : Product where
  name := o.name.getD "7-1 ARM"
  interestRate := o.rate.getD 5.0
  state := state
  creditScore := creditScore

def shownFlag (b : Bool) : String :=
  if b then "True" else "False"

/-- The JSON value of a result that took `time` microseconds. -/
def resultJson (time : UInt64) (e : Evaluation) : Json.Value :=
  .object [
    ("product", e.product.toJson),
    ("diagnostics", .list (e.report.diagnostics.map Diagnostic.toJson)),
    ("matched_rules", .list (e.report.matchedRules.map .nat)),
    ("evaluation_trace", .list (e.report.trace.map .text)),
    ("evaluation_time_us", .nat time.toNat)]

def resultLines (e : Evaluation) : List String :=
  e.report.trace ++
    ["Final interest rate for " ++ e.product.name ++ ": " ++
        String.ofList (Decimal.plain e.product.interestRate),
      "Product disqualified: " ++ shownFlag e.product.disqualified]

def resultText (json : Bool) (time : UInt64) (e : Evaluation) : String :=
  if json then (resultJson time e).pretty ++ "\n"
  else String.join ((resultLines e).map fun line => line ++ "\n")

/-- The exit code and the output of pricing a product for a borrower. Applying the rules takes
`elapsed` microseconds. -/
def Setup.price (s : Setup) (disk : Disk) (borrower : Borrower) (elapsed : UInt64) :
    Logged (Nat × String) := do
  Logged.note (.loggingReady s.config.logging.level s.config.logging.json)
  match parseCreditScore borrower.creditScore with
  | .error e =>
    Logged.note (.scoreRejected e.message)
    pure (2, "Invalid credit score. Please enter a valid number.\n")
  | .ok creditScore =>
    let rules ← RuleSet.loadOrReport s.mode disk s.rulesPath
    let product := productOf s.options borrower.state creditScore
    let e ← evaluate s.options.trace rules product
    { entries := e.report.diagnostics.map fun d => .print d.message, value := () }
    Logged.note
      (.evaluationComplete e.product.name e.product.interestRate e.product.disqualified)
    pure (0, resultText s.options.json (evaluationTime rules elapsed) e)

/-- The outcome of a run with its setup, given what was written to ask for the borrower. -/
def Setup.conclude (s : Setup) (disk : Disk) (written : String) (borrower : Borrower)
    (elapsed : UInt64) : Outcome :=
  let result := s.price disk borrower elapsed
  let json := s.config.logging.json
  .finished result.value.1 (written ++ result.value.2) json
    (Log.outputs s.filter json [] result.entries)

/-- The outcome of a run in which applying the rules takes `elapsed` microseconds. -/
def run (args : List String) (disk : Disk) (env : Config.Variables) (input : List UInt8)
    (elapsed : UInt64) : Outcome :=
  match prepare args disk env with
  | .error outcome => outcome
  | .ok setup =>
    let (written, borrower) := askBorrower setup.options input
    setup.conclude disk written borrower elapsed

end LoanPricing.CommandLine
