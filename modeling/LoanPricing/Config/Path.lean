import LoanPricing.Config.Setting

/-!
# Paths — where a setting of a layer goes

The keys at the top of a layer are paths: a name, followed by names after dots and indices in
square brackets. A key that cannot be read as a path is a single name.
-/

namespace LoanPricing.Config

inductive Step where
  | key (name : String)
  | index (n : Int)
  deriving DecidableEq, Repr

/-- The characters of a name in a path. -/
def isNameChar (c : Char) : Bool :=
  c.isAlphanum || c == '_' || c == '-'

def readName (cs : List Char) : Option (String × List Char) :=
  let name := cs.takeWhile isNameChar
  if name.isEmpty then none else some (String.ofList name, cs.dropWhile isNameChar)

def skipSpaces (cs : List Char) : List Char :=
  cs.dropWhile Toml.isSpace

/-- An index, which may have spaces around it, and what follows its closing bracket. -/
def readIndex (cs : List Char) : Option (Int × List Char) :=
  let (sign, cs) := match skipSpaces cs with
    | '-' :: cs => (['-'], cs)
    | cs => ([], cs)
  match Text.int64? (sign ++ cs.takeWhile Text.isDigit),
      skipSpaces (cs.dropWhile Text.isDigit) with
  | some n, ']' :: rest => some (n, rest)
  | _, _ => none

/-- The steps after the first name, at most as many as the bound allows. -/
def readSteps : Nat → List Char → Option (List Step)
  | _, [] => some []
  | 0, _ => none
  | bound + 1, '.' :: cs =>
    match readName cs with
    | some (name, rest) => (readSteps bound rest).map (.key name :: ·)
    | none => none
  | bound + 1, '[' :: cs =>
    match readIndex cs with
    | some (n, rest) => (readSteps bound rest).map (.index n :: ·)
    | none => none
  | _, _ => none

/-- The steps that a key at the top of a layer stands for. -/
def stepsOf (key : String) : List Step :=
  let steps := match readName key.toList with
    | some (name, rest) => (readSteps rest.length rest).map (Step.key name :: ·)
    | none => none
  steps.getD [.key key]

/-- A setting with a change of the part at the end of some steps. -/
def alterAt (change : Setting → Setting) : List Step → Setting → Setting
  | [], s => change s
  | .key name :: steps, s => s.alterKey (alterAt change steps) name
  | .index n :: steps, s => s.alterIndex (alterAt change steps) n

def addLayer (settings : Setting) (layer : List (String × Setting)) : Setting :=
  layer.foldl (fun s (key, v) => alterAt v.put (stepsOf key) s) settings

end LoanPricing.Config
