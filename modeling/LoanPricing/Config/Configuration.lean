import LoanPricing.Config.Layers
import LoanPricing.Decimal.Layout
import LoanPricing.Text.Quoted

/-!
# Configuration — settings as the program uses them

The settings are read into a structure with a default for every field. Scalars are converted
between kinds: every scalar has a text, and numbers and some words are flags. Where a group of
fields is expected a list of their values will also do.
-/

namespace LoanPricing.Config

inductive ConfigError where
  /-- The file is malformed. -/
  | malformed (path : String)
  /-- The value cannot be converted. -/
  | wrongKind (found wanted key : String) (origin : Option String)
  /-- The value is not a group of fields. -/
  | noGroup (found wanted key : String)
  deriving DecidableEq, Repr

/-- The message of an error. That of a malformed file has a wording of its own: what a TOML parser
says about the fault, its line and its column are left out. -/
def ConfigError.message : ConfigError → String
  | malformed path => "malformed configuration file " ++ path
  | wrongKind found wanted key origin =>
    "invalid type: " ++ found ++ ", expected " ++ wanted ++ " for key `" ++ key ++ "`" ++
      match origin with
      | some origin => " in " ++ origin
      | none => ""
  | noGroup found wanted key =>
    "invalid type: " ++ found ++ ", expected " ++ wanted ++ " for key `" ++ key ++ "`"

structure RuleSource where
  path : String := "rules.json"
  strictTags : Bool := false
  deriving DecidableEq, Repr

structure Logging where
  level : String := "warn"
  json : Bool := false
  deriving DecidableEq, Repr

structure Configuration where
  environment : String := "development"
  rules : RuleSource := {}
  logging : Logging := {}
  deriving DecidableEq, Repr

def quotedText (s : String) : String :=
  "string " ++ String.ofList (Text.quoted s.toList)

def structureName : Setting → String × Option String
  | .empty => ("unit value", none)
  | .list origin _ => ("sequence", origin)
  | .table origin _ => ("map", origin)
  | .scalar origin _ => ("", origin)

def asText (key : String) : Setting → Except ConfigError String
  | .scalar _ (.text s) => .ok s
  | .scalar _ (.int n) => .ok (String.ofList (Text.ofInt n))
  | .scalar _ (.number x) => .ok (String.ofList (Decimal.plain x))
  | .scalar _ (.flag b) => .ok (if b then "true" else "false")
  | other =>
    let (found, origin) := structureName other
    .error (.wrongKind found "a string" key origin)

/-- The flag that a word stands for, given in small letters. -/
def flagOfWord? (word : String) : Option Bool :=
  if word ∈ ["1", "true", "on", "yes"] then some true
  else if word ∈ ["0", "false", "off", "no"] then some false
  else none

def asFlag (key : String) : Setting → Except ConfigError Bool
  | .scalar _ (.flag b) => .ok b
  | .scalar _ (.int n) => .ok (n != 0)
  | .scalar _ (.number x) => .ok (x != 0.0)
  | .scalar origin (.text s) =>
    let word := String.ofList (Text.small s.toList)
    match flagOfWord? word with
    | some b => .ok b
    | none => .error (.wrongKind (quotedText word) "a boolean" key origin)
  | other =>
    let (found, origin) := structureName other
    .error (.wrongKind found "a boolean" key origin)

/-- A field of a group: its key for messages, and the setting if there is one. -/
structure Slot where
  key : String
  setting : Option Setting

/-- The value of a field, or its default. -/
def Slot.read {α : Type} (slot : Slot) (default : α)
    (convert : String → Setting → Except ConfigError α) : Except ConfigError α :=
  match slot.setting with
  | some s => convert slot.key s
  | none => .ok default

def foundName : Setting → String
  | .scalar _ (.text s) => quotedText s
  | .scalar _ (.int n) => "integer `" ++ String.ofList (Text.ofInt n) ++ "`"
  | .scalar _ (.number x) => "floating point `" ++ String.ofList (Decimal.plainWithPoint x) ++ "`"
  | .scalar _ (.flag b) => "boolean `" ++ (if b then "true" else "false") ++ "`"
  | other => (structureName other).1

/-- The two fields of a group, whose setting may be a table, a list, or missing. -/
def pairOf (key wanted first second : String) (setting : Option Setting) :
    Except ConfigError (Slot × Slot) :=
  let named (name : String) (members : List (String × Setting)) : Slot :=
    { key := key ++ "." ++ name, setting := members.lookup name }
  let numbered (n : Nat) (items : List Setting) : Slot :=
    { key := key ++ "[" ++ String.ofList (Text.ofNat n) ++ "]", setting := items[n]? }
  match setting with
  | none => .ok (named first [], named second [])
  | some (.table _ members) => .ok (named first members, named second members)
  | some (.list _ items) => .ok (numbered 0 items, numbered 1 items)
  | some other => .error (.noGroup (foundName other) wanted key)

def ruleSourceOf (setting : Option Setting) : Except ConfigError RuleSource := do
  let (path, strictTags) ← pairOf "rules" "struct RulesConfig" "path" "strict_tags" setting
  let default : RuleSource := {}
  pure {
    path := ← path.read default.path asText
    strictTags := ← strictTags.read default.strictTags asFlag }

def loggingOf (setting : Option Setting) : Except ConfigError Logging := do
  let (level, json) ←
    pairOf "observability" "struct ObservabilityConfig" "log_level" "json_logs" setting
  let default : Logging := {}
  pure {
    level := ← level.read default.level asText
    json := ← json.read default.json asFlag }

def ofSettings (settings : Setting) : Except ConfigError Configuration := do
  let members := settings.members
  let default : Configuration := {}
  let environment : Slot := { key := "environment", setting := members.lookup "environment" }
  pure {
    environment := ← environment.read default.environment asText
    rules := ← ruleSourceOf (members.lookup "rules")
    logging := ← loggingOf (members.lookup "observability") }

/-- The configuration from the files of a directory and the variables. -/
def load (disk : Disk) (dir : String) (env : Variables) :
    Except ConfigError Configuration :=
  match gather disk dir env with
  | .error path => .error (.malformed path)
  | .ok settings => ofSettings settings

end LoanPricing.Config
