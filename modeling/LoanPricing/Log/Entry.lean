import LoanPricing.Decimal.Layout

/-!
# Log entries — what the library reports while it works

A log is a list of entries in the order in which they are made: scopes that are entered and left,
and notices. Which of them are shown, and how, is decided elsewhere. A line meant for the error
stream itself stands among them in its place.
-/

namespace LoanPricing.Log

/-- How urgent a notice is, least first. -/
inductive Level where
  | trace
  | debug
  | info
  | warn
  | error
  deriving DecidableEq, Repr

def Level.name : Level → String
  | .trace => "TRACE"
  | .debug => "DEBUG"
  | .info => "INFO"
  | .warn => "WARN"
  | .error => "ERROR"

inductive FieldValue where
  | text (s : String)
  | count (n : Nat)
  | flag (b : Bool)
  | rate (x : Float)
  deriving DecidableEq, Repr

def FieldValue.shown : FieldValue → String
  | .text s => s
  | .count n => String.ofList (Text.ofNat n)
  | .flag true => "true"
  | .flag false => "false"
  | .rate x => String.ofList (Decimal.log x)

abbrev Fields := List (String × FieldValue)

inductive Notice where
  /-- The log is set up, with the wanted filter and format. -/
  | loggingReady (filter : String) (json : Bool)
  | scoreRejected (error : String)
  | unknownConditionTag (rule : Nat) (tag : String)
  | unknownActionTag (rule : Nat) (tag : String)
  | rulesLoaded (rules unknownTags : Nat) (strict : Bool)
  | rulesUnavailable (path : String)
  | rulesNotLoaded
  | unknownCondition (rule : Nat) (tag : String)
  | unknownAction (rule : Nat) (tag : String)
  | rulesApplied (product : String) (evaluated matched diagnostics : Nat)
  | evaluationComplete (product : String) (rate : Float) (disqualified : Bool)
  deriving DecidableEq, Repr

namespace Notice

/-- Loading and finishing are worth an information, everything else is for debugging. -/
def level : Notice → Level
  | rulesLoaded .. => .info
  | evaluationComplete .. => .info
  | _ => .debug

def target : Notice → String
  | loggingReady .. => "pricing_shared::observability"
  | scoreRejected .. => "pricing_engine"
  | evaluationComplete .. => "pricing_engine"
  | unknownConditionTag .. => "pricing_engine::compiler"
  | unknownActionTag .. => "pricing_engine::compiler"
  | rulesLoaded .. => "pricing_engine::store"
  | rulesUnavailable .. => "pricing_engine::store"
  | rulesNotLoaded => "pricing_engine::executor"
  | unknownCondition .. => "pricing_engine::executor"
  | unknownAction .. => "pricing_engine::executor"
  | rulesApplied .. => "pricing_engine::executor"

def message : Notice → String
  | loggingReady .. => "Observability initialized"
  | scoreRejected .. => "Rejected credit score input"
  | unknownConditionTag .. => "Rule has unknown condition tag"
  | unknownActionTag .. => "Rule has unknown action tag"
  | rulesLoaded .. => "Pricing rules loaded"
  | rulesUnavailable .. => "Pricing rules unavailable"
  | rulesNotLoaded => "Pricing rules not loaded, skipping evaluation"
  | unknownCondition .. => "Unknown condition"
  | unknownAction .. => "Unknown action"
  | rulesApplied .. => "Pricing rules applied"
  | evaluationComplete .. => "Evaluation complete"

def fields : Notice → Fields
  | loggingReady filter json =>
    [("log_level", .text filter), ("json_logs", .flag json), ("installed", .flag true)]
  | scoreRejected error => [("error", .text error)]
  | unknownConditionTag rule tag => [("rule_index", .count rule), ("tag", .text tag)]
  | unknownActionTag rule tag => [("rule_index", .count rule), ("tag", .text tag)]
  | rulesLoaded rules unknownTags strict =>
    [("rules", .count rules), ("unknown_tags", .count unknownTags), ("strict", .flag strict)]
  | rulesUnavailable path => [("path", .text path)]
  | rulesNotLoaded => []
  | unknownCondition rule tag => [("rule_index", .count rule), ("tag", .text tag)]
  | unknownAction rule tag => [("rule_index", .count rule), ("tag", .text tag)]
  | rulesApplied product evaluated matched diagnostics =>
    [("product", .text product), ("rules_evaluated", .count evaluated),
      ("matched", .count matched), ("diagnostics", .count diagnostics)]
  | evaluationComplete product rate disqualified =>
    [("product", .text product), ("interest_rate", .rate rate),
      ("disqualified", .flag disqualified)]

end Notice

/-- The scopes: loading from a file, and inside it, or alone, loading from a text. -/
inductive Scope where
  | loadFile (path : String)
  | loadText (bytes : Nat)
  deriving DecidableEq, Repr

namespace Scope

def name : Scope → String
  | loadFile _ => "load"
  | loadText _ => "load_from_json"

def fields : Scope → Fields
  | loadFile path => [("path", .text path)]
  | loadText bytes => [("bytes", .count bytes)]

def level (_ : Scope) : Level := .info

def target (_ : Scope) : String := "pricing_engine::store"

end Scope

inductive Entry where
  | enter (scope : Scope)
  | leave (scope : Scope)
  | note (notice : Notice)
  /-- A line for the error stream that is shown whatever the filter says. -/
  | print (line : String)
  deriving DecidableEq, Repr

/-- A value together with the entries made on the way to it. -/
structure Logged (α : Type) where
  entries : List Entry
  value : α
  deriving Repr

namespace Logged

variable {α β : Type}

def silent (a : α) : Logged α :=
  { entries := [], value := a }

def entry (e : Entry) : Logged Unit :=
  { entries := [e], value := () }

def note (n : Notice) : Logged Unit :=
  entry (.note n)

/-- One thing after another. -/
def bind (x : Logged α) (f : α → Logged β) : Logged β :=
  { entries := x.entries ++ (f x.value).entries, value := (f x.value).value }

instance : Monad Logged where
  pure := silent
  bind := bind

/-- What happens inside a scope. -/
def within (scope : Scope) (x : Logged α) : Logged α :=
  { entries := .enter scope :: x.entries ++ [.leave scope], value := x.value }

@[simp] theorem entries_pure (a : α) : (pure a : Logged α).entries = [] := rfl

@[simp] theorem value_pure (a : α) : (pure a : Logged α).value = a := rfl

@[simp] theorem entries_bind (x : Logged α) (f : α → Logged β) :
    (x >>= f).entries = x.entries ++ (f x.value).entries := rfl

@[simp] theorem value_bind (x : Logged α) (f : α → Logged β) :
    (x >>= f).value = (f x.value).value := rfl

@[simp] theorem value_within (scope : Scope) (x : Logged α) :
    (within scope x).value = x.value := rfl

end Logged

def notices (entries : List Entry) : List Notice :=
  entries.filterMap fun
    | .note n => some n
    | _ => none

@[simp] theorem notices_append (xs ys : List Entry) :
    notices (xs ++ ys) = notices xs ++ notices ys := by
  simp [notices]

end LoanPricing.Log
