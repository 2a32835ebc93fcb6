import LoanPricing.Pattern.Characters

/-!
# Patterns — which texts end with a match

A pattern is tried at every place of a text, from left to right, and in its own order of
preference. What may still happen is a list of patterns for the rest of the text, the preferred
first. As soon as one of them is complete, those after it are given up, and so are later places to
begin at. A text is accepted if some match is complete at its very end.
-/

namespace LoanPricing

inductive Pattern.Look where
  | textStart
  | textEnd
  | lineStart
  | lineEnd
  /-- A line may also end with a carriage return, with or without a line feed after it. -/
  | anyLineStart
  | anyLineEnd
  | wordEdge
  | noWordEdge
  | wordStart
  | wordEnd
  deriving DecidableEq, Repr

inductive Pattern where
  | empty
  | look (l : Pattern.Look)
  | one (cs : Pattern.Characters)
  | append (a b : Pattern)
  /-- The first of two, or else the second. -/
  | either (a b : Pattern)
  /-- As often as possible if `eager`, else as rarely as possible, and at least once more unless
  it is done `again`. -/
  | many (eager again : Bool) (a : Pattern)
  deriving DecidableEq, Repr

namespace Pattern

/-- A place in a text: the characters on both sides of it. -/
structure Place where
  before : Option Char
  after : Option Char
  deriving DecidableEq, Repr

def isWord (c : Option Char) : Bool :=
  c.any wordCharacters.contains

def Look.holds (p : Place) : Look → Bool
  | textStart => p.before = none
  | textEnd => p.after = none
  | lineStart => p.before = none || p.before = some '\n'
  | lineEnd => p.after = none || p.after = some '\n'
  | anyLineStart =>
    p.before = none || p.before = some '\n' || (p.before = some '\r' && p.after != some '\n')
  | anyLineEnd =>
    p.after = none || p.after = some '\r' || (p.after = some '\n' && p.before != some '\r')
  | wordEdge => isWord p.before != isWord p.after
  | noWordEdge => isWord p.before == isWord p.after
  | wordStart => !isWord p.before && isWord p.after
  | wordEnd => isWord p.before && !isWord p.after

def followedBy : Pattern → Pattern → Pattern
  | empty, b => b
  | a, empty => a
  | a, b => append a b

def once (eager : Bool) (a : Pattern) : Pattern := many eager false a

def optional (eager : Bool) (a : Pattern) : Pattern :=
  if eager then either a empty else either empty a

def anyTimes (eager : Bool) (a : Pattern) : Pattern := optional eager (once eager a)

/-- A way on: with a character from a set and then a pattern, or with nothing. -/
abbrev Way := Option (Characters × Pattern)

/-- A way on, and after it a pattern, where a way on with nothing leads to `done`. -/
def Way.andThen (b : Pattern) (done : List Way) : Way → List Way
  | none => done
  | some (cs, rest) => [some (cs, rest.followedBy b)]

/-- The ways on at a place, the preferred first. A second round of a repetition takes at least one
character. -/
def ways (p : Place) : Pattern → List Way
  | empty => [none]
  | look l => if l.holds p then [none] else []
  | one cs => [some (cs, empty)]
  | append a b => ((ways p a).flatMap (Way.andThen b (ways p b))).eraseDups
  | either a b => (ways p a ++ ways p b).eraseDups
  | many eager again a =>
    let next := many eager true a
    let inside := ways p a
    if again then
      let more := inside.flatMap (Way.andThen next [])
      if eager then more ++ [none] else none :: more
    else inside.flatMap (Way.andThen next [none])

@[simp] theorem ways_empty (p : Place) : ways p empty = [none] := rfl

@[simp] theorem ways_one (p : Place) (cs : Characters) : ways p (one cs) = [some (cs, empty)] := rfl

/-- Whether a pattern accepts nothing at a place. -/
def acceptsNothing (pattern : Pattern) (p : Place) : Bool :=
  (ways p pattern).contains none

structure Search where
  /-- What may follow, the preferred first. -/
  going : List Pattern
  /-- Whether a match may still begin. -/
  fresh : Bool
  deriving DecidableEq, Repr

namespace Search

def start : Search := { going := [], fresh := true }

def ways (pattern : Pattern) (s : Search) (p : Place) : List Way :=
  (s.going ++ if s.fresh then [pattern] else []).flatMap (Pattern.ways p)

/-- The search after a character. A match may also begin inside a character of more than one byte,
but it can only be empty there. -/
def step (pattern : Pattern) (s : Search) (before : Option Char) (c : Char) : Search :=
  let found := s.ways pattern ⟨before, some c⟩
  let going := (found.takeWhile Option.isSome).filterMap fun
    | some (cs, rest) => if cs.contains c then some rest else none
    | none => none
  { going := going.eraseDups
    fresh :=
      s.fresh && !found.contains none &&
        (c.utf8Size == 1 || !pattern.acceptsNothing ⟨some c, some c⟩) }

/-- Whether a match is complete at the end of the text. -/
def accepts (pattern : Pattern) (s : Search) (before : Option Char) : List Char → Bool
  | [] => (s.ways pattern ⟨before, none⟩).contains none
  | c :: cs => accepts pattern (s.step pattern before c) (some c) cs

end Search

/-- Whether a text ends with a match of the pattern. -/
def accepts (pattern : Pattern) (text : List Char) : Bool :=
  Search.start.accepts pattern none text

-- Every text ends with an empty match only if it is empty, because an empty match at the start is
-- preferred.
theorem accepts_empty (text : List Char) : accepts empty text = text.isEmpty := by
  cases text with
  | nil => rfl
  | cons c cs =>
    have closed (before : Option Char) (cs : List Char) :
        Search.accepts empty ⟨[], false⟩ before cs = false := by
      induction cs generalizing before with
      | nil => rfl
      | cons c cs ih => exact ih (some c)
    exact closed (some c) cs

end Pattern

end LoanPricing
