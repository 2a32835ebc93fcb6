import LoanPricing.Decimal.Reader
import LoanPricing.Log.Entry
import LoanPricing.Pattern.Reader
import LoanPricing.Text.Blank
import LoanPricing.Text.Case
import LoanPricing.Text.Letters

/-!
# Log filters — which entries of a log are shown

A filter is a list of directives with commas between them. A directive sets a threshold for the
part of the program that it names, or for what happens inside the scopes that it names:

    threshold   target   target=threshold   target[scope{field=value}]=threshold

The more specific of two directives counts, and of two directives for the same thing the later one.
-/

namespace LoanPricing.Log

/-- How far a filter lets notices through: not at all, or those at least as urgent as a level. -/
abbrev Threshold := Option Level

def Level.verbosity : Level → Nat
  | .error => 1
  | .warn => 2
  | .info => 3
  | .debug => 4
  | .trace => 5

namespace Threshold

def verbosity : Threshold → Nat
  | none => 0
  | some l => l.verbosity

def allows (t : Threshold) (l : Level) : Bool :=
  l.verbosity ≤ verbosity t

def max (a b : Threshold) : Threshold :=
  if verbosity a < verbosity b then b else a

def shown : Threshold → String
  | none => "off"
  | some .error => "error"
  | some .warn => "warn"
  | some .info => "info"
  | some .debug => "debug"
  | some .trace => "trace"

def all : List Threshold :=
  [none, some .error, some .warn, some .info, some .debug, some .trace]

/-- The threshold that a text names, by a digit or a word in any case. -/
def ofText? (cs : List Char) : Option Threshold :=
  match Text.word64? cs with
  | some n => all[n]?
  | none => all.find? fun t => (shown t).toList = cs.map Char.toLower

end Threshold

/-- What a directive wants of the value of a field. -/
inductive Wanted where
  | flag (b : Bool)
  | number (x : Float)
  | count (n : Nat)
  /-- A whole number with a minus sign in front, which may be zero. -/
  | signed (n : Int)
  /-- A text that ends with a match of a pattern. -/
  | pattern (cs : List Char) (p : Pattern)
  deriving DecidableEq, Repr

namespace Wanted

/-- What a text wants; none if it is a malformed pattern. -/
def ofText? (cs : List Char) : Option Wanted :=
  if cs = ['t', 'r', 'u', 'e'] then some (flag true)
  else if cs = ['f', 'a', 'l', 's', 'e'] then some (flag false)
  else
    match Text.word64? cs, Text.int64? cs, Decimal.float? cs with
    | some n, _, _ => some (count n)
    | none, some n, _ => some (signed n)
    | none, none, some x => some (number x)
    | none, none, none => (Pattern.ofText? cs).map (pattern cs)

def shown : Wanted → List Char
  | flag true => ['t', 'r', 'u', 'e']
  | flag false => ['f', 'a', 'l', 's', 'e']
  | number x => Decimal.plain x
  | count n => Text.ofNat n
  | signed n => Text.ofInt n
  | pattern cs _ => cs

def accepts (w : Wanted) (v : FieldValue) : Bool :=
  match w, v with
  | flag b, .flag c => b == c
  | count n, .count m => n == m
  | pattern _ p, .text s => p.accepts s.toList
  | _, _ => false

def rank : Wanted → Nat
  | flag _ => 0
  | number x => if x.isNaN then 2 else 1
  | count _ => 3
  | signed _ => 4
  | pattern .. => 5

end Wanted

structure FieldMatch where
  name : List Char
  wanted : Option Wanted
  deriving DecidableEq, Repr

namespace FieldMatch

/-- The part of a text before its first equals sign, and the rest. -/
def cut (cs : List Char) : List Char × List Char :=
  (cs.takeWhile (· != '='), cs.dropWhile (· != '='))

/-- The field that a text names; none if it wants a malformed pattern. After a second equals sign
the text does not matter. -/
def ofText? (cs : List Char) : Option FieldMatch :=
  let (name, rest) := cut cs
  if rest.isEmpty then some { name, wanted := none }
  else (Wanted.ofText? (cut (rest.drop 1)).1).map fun w => { name, wanted := some w }

def shown (f : FieldMatch) : List Char :=
  f.name ++
    match f.wanted with
    | some w => '=' :: w.shown
    | none => []

end FieldMatch

structure Directive where
  target : Option (List Char) := none
  scope : Option (List Char) := none
  fields : List FieldMatch := []
  threshold : Threshold := some .trace
  deriving DecidableEq, Repr

namespace Directive

/-- Where the reader of a directive stands. The numbers say where its current part begins, counted
in bytes. -/
inductive State where
  | start
  | thresholdOrTarget (first : Nat)
  | scope (first : Nat)
  | field (first : Nat)
  | fieldsDone
  | targetDone
  | threshold (first : Nat)
  deriving DecidableEq, Repr

/-- The characters of a text that begin before so many bytes. -/
def takeBytes : Nat → List Char → List Char
  | 0, _ => []
  | _, [] => []
  | n + 1, c :: cs => c :: takeBytes (n + 1 - c.utf8Size) cs

/-- The characters of a text that do not begin before so many bytes. -/
def dropBytes : Nat → List Char → List Char
  | 0, cs => cs
  | _, [] => []
  | n + 1, c :: cs => dropBytes (n + 1 - c.utf8Size) cs

def slice (text : List Char) (first last : Nat) : List Char :=
  takeBytes (last - first) (dropBytes first text)

def mayBegin (c : Char) : Bool :=
  c == '-' || c == ':' || c == '_' || Text.isLetterOrNumber c

/-- One character at place `i`; `text` is what the parts are cut from. -/
def step (text : List Char) (d : Directive) (state : State) (i : Nat) (c : Char) :
    Option (Directive × State) :=
  match state with
  | .start =>
    if c = '[' then some (d, .scope (i + 1))
    else if mayBegin c then some (d, .thresholdOrTarget i)
    else none
  | .thresholdOrTarget first =>
    if c = '=' then some ({ d with target := some (slice text first i) }, .threshold (i + 1))
    else if c = '[' then some ({ d with target := some (slice text first i) }, .scope (i + 1))
    else some (d, state)
  | .scope first =>
    let name := slice text first i
    if c = ']' then some ({ d with scope := some name }, .targetDone)
    else if c = '{' then
      some ({ d with scope := if name.isEmpty then none else some name }, .field (i + 1))
    else some (d, state)
  | .field first =>
    if c = '}' then
      let field := slice text first i
      if field.isEmpty then none
      else
        (FieldMatch.ofText? field).map fun f =>
          ({ d with fields := d.fields ++ [f] }, .fieldsDone)
    else some (d, state)
  | .fieldsDone => if c = ']' then some (d, .targetDone) else none
  | .targetDone => if c = '=' then some (d, .threshold (i + 1)) else none
  | .threshold _ => some (d, state)

def steps (text : List Char) (d : Directive) (state : State) (i : Nat) :
    List Char → Option (Directive × State)
  | [] => some (d, state)
  | c :: cs =>
    match step text d state i c with
    | some (d, state) => steps text d state (i + c.utf8Size) cs
    | none => none

/-- The directive at the end of its text. What is no threshold by itself is a target. -/
def finish (text : List Char) (d : Directive) : State → Option Directive
  | .thresholdOrTarget first =>
    let part := dropBytes first text
    match Threshold.ofText? part with
    | some t => some { d with threshold := t, target := none }
    | none => some { d with threshold := some .trace, target := some part }
  | .threshold first =>
    let part := dropBytes first text
    if part.isEmpty then some d
    else (Threshold.ofText? part).map fun t => { d with threshold := t }
  | .targetDone => some d
  | _ => none

/-- The directive that a text spells. The places of its parts are found in the text without the
blanks around it, but the parts are cut from the text with them, at the same distance in bytes from
its start. -/
def ofText? (text : List Char) : Option Directive :=
  match steps text {} .start 0 (Text.trim text) with
  | some (d, state) => finish text d state
  | none => none

/-- Whether a directive is about scopes. -/
def isDynamic (d : Directive) : Bool :=
  d.scope.isSome || !d.fields.isEmpty

/-- Whether a directive wants a field to have some value. -/
def wantsValue (d : Directive) : Bool :=
  d.fields.any fun f => f.wanted.isSome

/-- Whether a directive decides about notices by themselves. -/
def isStatic (d : Directive) : Bool :=
  d.scope.isNone && !d.wantsValue

def shownWith (target : Option (List Char)) (brackets : List Char) (t : Threshold) : List Char :=
  let place := target.getD [] ++ brackets
  let sign := if target.isSome || !brackets.isEmpty then ['='] else []
  place ++ sign ++ (Threshold.shown t).toList

def commaSeparated : List (List Char) → List Char
  | [] => []
  | [cs] => cs
  | cs :: rest => cs ++ ',' :: commaSeparated rest

def braced (fields : List (List Char)) : List Char :=
  if fields.isEmpty then [] else '{' :: commaSeparated fields ++ ['}']

def shown (d : Directive) : List Char :=
  let inner := d.scope.getD [] ++ braced (d.fields.map FieldMatch.shown)
  shownWith d.target (if d.isDynamic then '[' :: inner ++ [']'] else []) d.threshold

def shownStatic (d : Directive) : List Char :=
  let names := d.fields.map FieldMatch.name
  shownWith d.target (if names.isEmpty then [] else '[' :: braced names ++ [']']) d.threshold

def compareLists {α : Type} (cmp : α → α → Ordering) : List α → List α → Ordering
  | [], [] => .eq
  | [], _ :: _ => .lt
  | _ :: _, [] => .gt
  | a :: as, b :: bs => (cmp a b).then (compareLists cmp as bs)

def compareTexts (a b : List Char) : Ordering :=
  compareLists (fun c d => compare c.toNat d.toNat) a b

/-- Order of optional values, none first. -/
def compareOptions {α : Type} (cmp : α → α → Ordering) : Option α → Option α → Ordering
  | none, none => .eq
  | none, some _ => .lt
  | some _, none => .gt
  | some a, some b => cmp a b

def byteCount : List Char → Nat
  | [] => 0
  | c :: cs => c.utf8Size + byteCount cs

def compareLengths (a b : Directive) : Ordering :=
  compareOptions compare (a.target.map byteCount) (b.target.map byteCount)

/-- Order of directives about notices, the less specific first. -/
def compareStatic (a b : Directive) : Ordering :=
  (compareLengths a b).then <|
  (compare a.fields.length b.fields.length).then <|
  (compareOptions compareTexts a.target b.target).then <|
  compareLists compareTexts (a.fields.map FieldMatch.name) (b.fields.map FieldMatch.name)

/-- Order of numbers by their values, so that both zeros are equal. -/
def compareFloats (x y : Float) : Ordering :=
  if x < y then .lt else if y < x then .gt else .eq

/-- Order of wanted values, those of different kinds by their kinds. -/
def compareWanted (a b : Wanted) : Ordering :=
  match a, b with
  | .flag x, .flag y => compare x.toNat y.toNat
  | .count m, .count n => compare m n
  | .signed m, .signed n => compare m n
  | .pattern cs _, .pattern ds _ => compareTexts cs ds
  | .number x, .number y => (compare a.rank b.rank).then (compareFloats x y)
  | _, _ => compare a.rank b.rank

/-- Order of fields: those without a wanted value first. -/
def compareFields (a b : FieldMatch) : Ordering :=
  (compare a.wanted.isSome.toNat b.wanted.isSome.toNat).then <|
  (compareTexts a.name b.name).then <|
  compareOptions compareWanted a.wanted b.wanted

/-- Order of directives about scopes, the less specific first. -/
def compareDynamic (a b : Directive) : Ordering :=
  (compareLengths a b).then <|
  (compare a.scope.isSome.toNat b.scope.isSome.toNat).then <|
  (compare a.fields.length b.fields.length).then <|
  (compareOptions compareTexts a.target b.target).then <|
  (compareOptions compareTexts a.scope b.scope).then <|
  compareLists compareFields a.fields b.fields

/-- Directives, the more specific first, with one more; an equal one is replaced. -/
def insert (cmp : Directive → Directive → Ordering) (d : Directive) : List Directive → List Directive
  | [] => [d]
  | e :: es =>
    match cmp d e with
    | .gt => d :: e :: es
    | .eq => d :: es
    | .lt => e :: insert cmp d es

def arrange (cmp : Directive → Directive → Ordering) (ds : List Directive) : List Directive :=
  ds.foldl (fun arranged d => insert cmp d arranged) []

end Directive

/-- A filter: directives about notices and directives about scopes, the more specific first, and
how much they let through at most. -/
structure Filter where
  statics : List Directive
  dynamics : List Directive
  ceiling : Threshold
  deriving DecidableEq, Repr

namespace Filter

def ofDirectives (ds : List Directive) : Filter :=
  let dynamics := ds.filter Directive.isDynamic
  let statics := ds.filter (fun d => !d.isDynamic) ++ dynamics.filter Directive.isStatic
  { statics := Directive.arrange Directive.compareStatic statics
    dynamics := Directive.arrange Directive.compareDynamic dynamics
    ceiling :=
      if ds.any Directive.wantsValue then some .trace
      else ds.foldl (fun t d => Threshold.max t d.threshold) none }

/-- The filter that a text spells; none if one of its directives is malformed. -/
def ofText? (text : String) : Option Filter :=
  let parts := (text.toList.splitOn ',').filter fun part => !part.isEmpty
  (parts.mapM Directive.ofText?).map ofDirectives

def warnings : Filter :=
  ofDirectives [{ threshold := some .warn }]

/-- The filter for a text from the environment and a configured one: the first of them that is well
formed, else warnings. -/
def choose (preferred : Option String) (configured : String) : Filter :=
  match preferred.bind ofText?, ofText? configured with
  | some filter, _ => filter
  | none, some filter => filter
  | none, none => warnings

def shown (f : Filter) : String :=
  String.ofList <| Directive.commaSeparated <|
    f.statics.map Directive.shownStatic ++ f.dynamics.map Directive.shown

def concerns (d : Directive) (target : String) : Bool :=
  d.target.all fun t => t.isPrefixOf target.toList

def hasFields (d : Directive) (names : List String) : Bool :=
  d.fields.all fun f => names.any fun name => name.toList = f.name

/-- What the first of the directives about notices lets through. -/
def allowsStatically (f : Filter) (cares : Directive → Bool) (level : Level) : Bool :=
  match f.statics.find? cares with
  | some d => Threshold.allows d.threshold level
  | none => false

def dynamicsFor (f : Filter) (s : Scope) : List Directive :=
  f.dynamics.filter fun d =>
    concerns d s.target && d.scope.all (fun name => s.name.toList = name) &&
      hasFields d (s.fields.map Prod.fst)

def acceptsFields (d : Directive) (fields : Fields) : Bool :=
  d.fields.all fun f =>
    match f.wanted with
    | none => true
    | some w => fields.any fun (name, v) => name.toList = f.name && w.accepts v

/-- What a scope lets through while it is entered, if there are directives about it. -/
def thresholdInside (f : Filter) (s : Scope) : Option Threshold :=
  match f.dynamicsFor s with
  | [] => none
  | ds =>
    some <| (ds.filter fun d => acceptsFields d s.fields).foldl
      (fun t d => Threshold.max t d.threshold) none

/-- Whether a notice is shown inside scopes that let through the given thresholds. -/
def showsNotice (f : Filter) (inside : List Threshold) (n : Notice) : Bool :=
  Threshold.allows f.ceiling n.level &&
    (inside.any (fun t => Threshold.allows t n.level) ||
      f.allowsStatically (fun d =>
        concerns d n.target && hasFields d ("message" :: n.fields.map Prod.fst)) n.level)

/-- Whether a scope is shown inside scopes that let through the given thresholds. -/
def showsScope (f : Filter) (inside : List Threshold) (s : Scope) : Bool :=
  Threshold.allows f.ceiling s.level &&
    (!(f.dynamicsFor s).isEmpty || inside.any (fun t => Threshold.allows t s.level) ||
      f.allowsStatically (fun d => concerns d s.target) s.level)

end Filter

end LoanPricing.Log
