import LoanPricing.Rules.Rule

/-!
# Rule sets — the rules of a file, loaded as a whole

A rule set is loaded from records, a text or a file; one error anywhere and there is no rule set.
The scopes of the log say where the rules come from, and a notice says that they are there.
-/

namespace LoanPricing

/-- Rules in the order in which they are applied. -/
structure RuleSet where
  rules : List Rule
  deriving DecidableEq, Repr

namespace RuleSet

open Log (Logged)

def size (s : RuleSet) : Nat :=
  s.rules.length

def isEmpty (s : RuleSet) : Bool :=
  s.rules.isEmpty

def get? (s : RuleSet) (position : Nat) : Option Rule :=
  s.rules[position]?

/-- The number of rules with a tag outside the vocabulary. -/
def unknownTagCount (s : RuleSet) : Nat :=
  s.rules.countP Rule.hasUnknownTag

/-- The rules at the given positions, as far as there are any, with the places that they had. -/
def select (s : RuleSet) (positions : List Nat) : RuleSet :=
  { rules := positions.filterMap s.get? }

def compile (mode : Mode) (records : List RuleRecord) : Logged (Except RuleError RuleSet) := do
  match ← Rule.compileFrom mode 0 records with
  | .error e => pure (.error e)
  | .ok rules => pure (.ok { rules })

def load (mode : Mode) (text : String) : Logged (Except RuleError RuleSet) :=
  Logged.within (.loadText text.utf8ByteSize) do
    match RuleRecord.parseAll text with
    | .error e => pure (.error (.json e))
    | .ok records =>
      match ← compile mode records with
      | .error e => pure (.error e)
      | .ok set =>
        Logged.note (.rulesLoaded set.size set.unknownTagCount mode.isStrict)
        pure (.ok set)

def loadFile (mode : Mode) (disk : Disk) (path : String) : Logged (Except RuleError RuleSet) :=
  Logged.within (.loadFile path) do
    match disk.readText path with
    | .error fault => pure (.error (.file fault))
    | .ok text => load mode text

/-- The rule set of a file. Instead of an error there is a notice and a line that says why there
is no rule set. -/
def loadOrReport (mode : Mode) (disk : Disk) (path : String) : Logged (Option RuleSet) := do
  match ← loadFile mode disk path with
  | .ok set => pure (some set)
  | .error e =>
    Logged.note (.rulesUnavailable path)
    Logged.entry (.print ("Error loading pricing rules: " ++ e.message))
    pure none

@[simp] theorem isEmpty_iff (s : RuleSet) : s.isEmpty = true ↔ s.size = 0 := by
  simp [isEmpty, size]

end RuleSet

end LoanPricing
