import LoanPricing.Rules.RuleSet

/-!
# Evaluation — rules applied to a product, in order

Each rule is visited once, in the order of the rule set, and sees the product as the rules before
it have left it. A *visit* keeps the rule and its verdict. Everything that is reported about an
evaluation, the matched rules, the diagnostics, the trace and the notices, is read off the visits.
-/

namespace LoanPricing

/-- What a rule comes to for a product. -/
inductive Verdict where
  /-- Its condition is unknown. -/
  | skipped
  | notMatched
  /-- Its condition holds, but its action is unknown. -/
  | noEffect
  | applied
  deriving DecidableEq, Repr

def Verdict.shown : Verdict → String
  | .skipped => "SKIPPED"
  | .notMatched => "NOT_MATCHED"
  | .noEffect => "MATCHED, NO_EFFECT"
  | .applied => "MATCHED, APPLIED"

/-- Whether the condition of the rule holds. -/
def Verdict.isMatch : Verdict → Bool
  | .skipped => false
  | .notMatched => false
  | .noEffect => true
  | .applied => true

def Rule.judge (r : Rule) (p : Product) : Verdict :=
  if !r.condition.isKnown then .skipped
  else if !r.condition.holds p then .notMatched
  else if !r.action.isKnown then .noEffect
  else .applied

/-- The product after a rule with the given verdict. -/
def Rule.after (r : Rule) (v : Verdict) (p : Product) : Product :=
  match v with
  | .applied => r.action.apply p
  | _ => p

structure Visit where
  rule : Rule
  verdict : Verdict
  deriving DecidableEq, Repr

/-- The visits of rules to a product, and the product after them. -/
def visitAll : List Rule → Product → List Visit × Product
  | [], p => ([], p)
  | r :: rs, p =>
    let verdict := r.judge p
    let (visits, q) := visitAll rs (r.after verdict p)
    ({ rule := r, verdict } :: visits, q)

inductive Diagnostic where
  | rulesNotLoaded
  | unknownCondition (rule : Nat) (tag : String)
  | unknownAction (rule : Nat) (tag : String)
  deriving DecidableEq, Repr

namespace Diagnostic

def message : Diagnostic → String
  | rulesNotLoaded => "Error: Pricing rules not loaded."
  | unknownCondition _ tag => "Unknown condition: " ++ tag
  | unknownAction _ tag => "Unknown action: " ++ tag

def toJson : Diagnostic → Json.Value
  | rulesNotLoaded => .object [("kind", .text "rules_not_loaded")]
  | unknownCondition rule tag =>
    .object [("kind", .text "unknown_condition"), ("rule_index", .nat rule), ("tag", .text tag)]
  | unknownAction rule tag =>
    .object [("kind", .text "unknown_action"), ("rule_index", .nat rule), ("tag", .text tag)]

def notice : Diagnostic → Log.Notice
  | rulesNotLoaded => .rulesNotLoaded
  | unknownCondition rule tag => .unknownCondition rule tag
  | unknownAction rule tag => .unknownAction rule tag

end Diagnostic

namespace Visit

def diagnostic? (v : Visit) : Option Diagnostic :=
  match v.verdict with
  | .skipped => v.rule.condition.unknownTag?.map (.unknownCondition v.rule.index)
  | .noEffect => v.rule.action.unknownTag?.map (.unknownAction v.rule.index)
  | _ => none

/-- The place of the rule, if its condition holds. -/
def matched? (v : Visit) : Option Nat :=
  if v.verdict.isMatch then some v.rule.index else none

def shown (v : Visit) : String :=
  "rules[" ++ String.ofList (Text.ofNat v.rule.index) ++ "]: if " ++ v.rule.condition.shown ++
    " then " ++ v.rule.action.shown ++ " => " ++ v.verdict.shown

end Visit

/-- What is reported about an evaluation. The time that it takes is not found out by evaluating: it
is measured where the rules are applied, and joins the report where that is written. -/
structure Report where
  rulesEvaluated : Nat := 0
  matchedRules : List Nat := []
  diagnostics : List Diagnostic := []
  trace : List String := []
  deriving DecidableEq, Repr

namespace Report

def ofVisits (tracing : Bool) (visits : List Visit) : Report where
  rulesEvaluated := visits.length
  matchedRules := visits.filterMap Visit.matched?
  diagnostics := visits.filterMap Visit.diagnostic?
  trace := if tracing then visits.map Visit.shown else []

def withoutRules : Report where
  diagnostics := [.rulesNotLoaded]

def hasDiagnostics (r : Report) : Bool :=
  !r.diagnostics.isEmpty

/-- The JSON value of the report of an evaluation that took `time` microseconds. -/
def toJson (time : UInt64) (r : Report) : Json.Value :=
  .object [
    ("rules_evaluated", .nat r.rulesEvaluated),
    ("matched_rules", .list (r.matchedRules.map .nat)),
    ("diagnostics", .list (r.diagnostics.map Diagnostic.toJson)),
    ("evaluation_trace", .list (r.trace.map .text)),
    ("evaluation_time_us", .nat time.toNat)]

end Report

structure Evaluation where
  report : Report
  product : Product
  deriving DecidableEq, Repr

/-- The time of an evaluation, given the microseconds that went by while the rules were applied.
Where there are none nothing is applied, and no time is taken. -/
def evaluationTime (rules : Option RuleSet) (elapsed : UInt64) : UInt64 :=
  match rules with
  | none => 0
  | some _ => elapsed

open Log (Logged)

/-- The evaluation of a product by a rule set, if there is one. -/
def evaluate (tracing : Bool) (rules : Option RuleSet) (product : Product) : Logged Evaluation :=
  match rules with
  | none => do
    Logged.note .rulesNotLoaded
    pure { report := .withoutRules, product }
  | some set =>
    let (visits, product) := visitAll set.rules product
    let report := Report.ofVisits tracing visits
    { entries := report.diagnostics.map (fun d => .note d.notice) ++
        [.note (.rulesApplied product.name report.rulesEvaluated report.matchedRules.length
          report.diagnostics.length)]
      value := { report, product } }

@[simp] theorem visitAll_nil (p : Product) : visitAll [] p = ([], p) := rfl

-- Visiting one list of rules after another.
theorem visitAll_append (xs ys : List Rule) (p : Product) :
    visitAll (xs ++ ys) p =
      ((visitAll xs p).1 ++ (visitAll ys (visitAll xs p).2).1,
        (visitAll ys (visitAll xs p).2).2) := by
  induction xs generalizing p with
  | nil => rfl
  | cons r rs ih => simp [visitAll, ih]

end LoanPricing
