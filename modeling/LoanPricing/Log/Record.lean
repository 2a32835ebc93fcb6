import LoanPricing.Json.Value
import LoanPricing.Log.Filter

/-!
# Log records — entries as lines of the error stream

A record is an entry that passes the filter, with the scopes around it. There are two formats: a
line of text, and a JSON object. Only the JSON format has records of the ends of scopes.
-/

namespace LoanPricing.Log

structure Record where
  level : Level
  target : String
  message : String
  fields : Fields
  /-- The scope that the record belongs to. -/
  scope : Option Scope
  /-- The scopes around, outermost first. For a notice its own scope is the last of them. -/
  scopes : List Scope
  deriving DecidableEq, Repr

namespace Record

/-- The record of a notice inside the given scopes, outermost first. -/
def ofNotice (scopes : List Scope) (n : Notice) : Record :=
  { level := n.level, target := n.target, message := n.message, fields := n.fields,
    scope := scopes.getLast?, scopes }

/-- The record of the end of a scope inside the given ones. How long the scope was busy and idle,
the fields `time.busy` and `time.idle` of such records, is left out with all times. -/
def ofEnd (scopes : List Scope) (s : Scope) : Record :=
  { level := s.level, target := s.target, message := "close", fields := [], scope := some s, scopes }

def shownField (f : String × FieldValue) : String :=
  f.1 ++ "=" ++ f.2.shown

def shownScope (s : Scope) : String :=
  s.name ++ "\x7b" ++ String.intercalate " " (s.fields.map shownField) ++ "\x7d:"

/-- The name of a level, filled up to five characters. -/
def paddedLevel (l : Level) : String :=
  String.ofList (List.replicate (5 - l.name.length) ' ') ++ l.name

/-- The line of a record, which begins with the given time. -/
def line (time : String) (r : Record) : String :=
  let scopes := if r.scopes.isEmpty then "" else String.join (r.scopes.map shownScope) ++ " "
  String.intercalate " "
    ([time, paddedLevel r.level, scopes ++ r.message] ++ r.fields.map shownField)

def fieldJson : FieldValue → Json.Value
  | .text s => .text s
  | .count n => .nat n
  | .flag b => .flag b
  | .rate x => .number x

def fieldMembers (fields : Fields) : List (String × Json.Value) :=
  fields.map fun (name, v) => (name, fieldJson v)

def scopeJson (s : Scope) : Json.Value :=
  .object (fieldMembers s.fields ++ [("name", .text s.name)])

/-- The members of the JSON value of a record, without its time. -/
def members (r : Record) : List (String × Json.Value) :=
  [("level", .text r.level.name),
    ("fields", .object (("message", .text r.message) :: fieldMembers r.fields)),
    ("target", .text r.target)] ++
    match r.scope with
    | none => []
    | some s => [("span", scopeJson s), ("spans", .list (r.scopes.map scopeJson))]

def toJson (time : String) (r : Record) : Json.Value :=
  .object (("timestamp", .text time) :: r.members)

end Record

inductive Output where
  /-- A line that is no part of the log. -/
  | print (line : String)
  | record (r : Record)
  deriving DecidableEq, Repr

/-- A scope that is entered: whether it is shown, and what it lets through. -/
structure OpenScope where
  scope : Scope
  isShown : Bool
  inside : Option Threshold
  deriving DecidableEq, Repr

/-- The shown scopes among those entered, outermost first. -/
def shownScopes (entered : List OpenScope) : List Scope :=
  ((entered.filter OpenScope.isShown).map OpenScope.scope).reverse

def thresholds (entered : List OpenScope) : List Threshold :=
  (entered.filter OpenScope.isShown).filterMap OpenScope.inside

/-- What entries put on the error stream, from inside the given scopes, innermost first. -/
def outputs (f : Filter) (json : Bool) (entered : List OpenScope) : List Entry → List Output
  | [] => []
  | .print line :: rest => .print line :: outputs f json entered rest
  | .note n :: rest =>
    let here :=
      if f.showsNotice (thresholds entered) n then
        [Output.record (Record.ofNotice (shownScopes entered) n)]
      else []
    here ++ outputs f json entered rest
  | .enter s :: rest =>
    let o : OpenScope :=
      { scope := s, isShown := f.showsScope (thresholds entered) s, inside := f.thresholdInside s }
    outputs f json (o :: entered) rest
  | .leave s :: rest =>
    let outer := entered.tail
    let here :=
      if json && (entered.head?.any OpenScope.isShown) then
        [Output.record (Record.ofEnd (shownScopes outer) s)]
      else []
    here ++ outputs f json outer rest

/-- The text of an output as the error stream has it, at the given time. -/
def Output.text (json : Bool) (time : String) : Output → String
  | .print line => line ++ "\n"
  | .record r => (if json then (r.toJson time).line else r.line time) ++ "\n"

/-- Where the log of a process goes: what is shown of it, and in which format. -/
structure Sink where
  filter : Filter
  json : Bool
  deriving DecidableEq, Repr

namespace Sink

/-- The sink in place after an attempt to set the log up. The first one stays. -/
def install (new : Sink) : Option Sink → Sink
  | none => new
  | some first => first

/-- Whether each of several attempts to set the log up succeeds. An attempt does if a sink is in
place after it, be it its own or an earlier one. -/
def setUps (new : Sink) : Nat → Option Sink → List Bool
  | 0, _ => []
  | n + 1, current =>
    let afterwards := some (new.install current)
    afterwards.isSome :: setUps new n afterwards

-- Setting the log up again is no error.
theorem setUps_eq_replicate (new : Sink) (n : Nat) (current : Option Sink) :
    new.setUps n current = List.replicate n true := by
  induction n generalizing current with
  | zero => rfl
  | succ n ih => exact congrArg (List.cons true) (ih _)

end Sink

end LoanPricing.Log
