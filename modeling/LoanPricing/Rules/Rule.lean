import LoanPricing.Log.Entry
import LoanPricing.Rules.Action
import LoanPricing.Rules.Condition
import LoanPricing.Rules.Error

/-!
# Rules — as a file states them, and as they are applied

A record in a rules file names a condition and an action by tags. Compiling it looks the tags up
once and for all. An amount that is not finite is refused. A tag outside the vocabulary is refused
in strict mode; otherwise the rule keeps it, and a notice says so.
-/

namespace LoanPricing

/-- A rule as a rules file states it. -/
structure RuleRecord where
  condition : String
  action : String
  value : Float := 0.0
  deriving DecidableEq, Repr

namespace RuleRecord

def toJson (r : RuleRecord) : Json.Value :=
  .object [
    ("Condition", .text r.condition),
    ("Action", .text r.action),
    ("ActionValue", .number r.value)]

/-- A record of which some fields have been read. -/
structure Draft where
  condition : Option String := none
  action : Option String := none
  value : Option Float := none

/-- The record of a draft, whose amount is zero unless it says otherwise, or the first field that
is lacking. -/
def Draft.finish (d : Draft) : Except String RuleRecord :=
  match d.condition, d.action with
  | none, _ => .error "Condition"
  | _, none => .error "Action"
  | some condition, some action => .ok { condition, action, value := d.value.getD 0.0 }

def shape : Json.Shape Draft RuleRecord where
  title := "PricingRule"
  fields := [
    { name := "Condition", kind := .text,
      isSet := fun d => d.condition.isSome, set := fun s d => { d with condition := some s } },
    { name := "Action", kind := .text,
      isSet := fun d => d.action.isSome, set := fun s d => { d with action := some s } },
    { name := "ActionValue", kind := .number,
      isSet := fun d => d.value.isSome, set := fun x d => { d with value := some x } }]
  start := {}
  finish := Draft.finish

def parse (text : String) : Except Json.Error RuleRecord :=
  Json.readWhole shape.read text.toList

def parseAll (text : String) : Except Json.Error (List RuleRecord) :=
  Json.readWhole shape.readList text.toList

end RuleRecord

structure Rule where
  index : Nat
  condition : Condition
  action : Action
  deriving DecidableEq, Repr

/-- Whether one of the tags of the rule is outside the vocabulary. -/
def Rule.hasUnknownTag (r : Rule) : Bool :=
  !r.condition.isKnown || !r.action.isKnown

inductive Mode where
  /-- They are kept. -/
  | lenient
  /-- They are refused. -/
  | strict
  deriving DecidableEq, Repr

def Mode.ofFlag (strict : Bool) : Mode :=
  if strict then .strict else .lenient

def Mode.isStrict (mode : Mode) : Bool :=
  mode == .strict

namespace Rule

open Log (Logged)

/-- What becomes of a tag, if it is one outside the vocabulary: in strict mode the error, otherwise
the notice. -/
def vet (mode : Mode) (unknownTag : Option String) (error : String → RuleError)
    (notice : String → Log.Notice) : Logged (Except RuleError Unit) :=
  match unknownTag, mode with
  | none, _ => pure (.ok ())
  | some tag, .strict => pure (.error (error tag))
  | some tag, .lenient => do
    Logged.note (notice tag)
    pure (.ok ())

/-- The rule of a record at a place in its file. -/
def compile (mode : Mode) (index : Nat) (record : RuleRecord) : Logged (Except RuleError Rule) :=
  if !record.value.isFinite then pure (.error (.invalidActionValue index record.value))
  else do
    let condition := Condition.ofTag record.condition
    let action := Action.ofTag record.action record.value
    match ← vet mode condition.unknownTag? (.unknownConditionTag index)
        (.unknownConditionTag index) with
    | .error e => pure (.error e)
    | .ok () =>
      match ← vet mode action.unknownTag? (.unknownActionTag index) (.unknownActionTag index) with
      | .error e => pure (.error e)
      | .ok () => pure (.ok { index, condition, action })

/-- The rules of records, numbered from `index`. The first error ends it. -/
def compileFrom (mode : Mode) (index : Nat) :
    List RuleRecord → Logged (Except RuleError (List Rule))
  | [] => pure (.ok [])
  | record :: records => do
    match ← compile mode index record with
    | .error e => pure (.error e)
    | .ok rule =>
      match ← compileFrom mode (index + 1) records with
      | .error e => pure (.error e)
      | .ok rules => pure (.ok (rule :: rules))

end Rule

end LoanPricing
