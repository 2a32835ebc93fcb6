import LoanPricing.Pattern.Brackets
import LoanPricing.Text.Letters

/-!
# Reading patterns — from a text to a pattern

A pattern has groups, alternatives, repetitions, sets in brackets and escapes. Groups may have
names, which do not matter but have to be well formed. A repetition with a count is malformed, and
so is whatever would need a table of character properties: classes, word edges and ignoring case,
unless characters are confined to ASCII.
-/

namespace LoanPricing.Pattern

structure Node where
  pattern : Pattern
  /-- How deep groups, repetitions, sets, sequences and choices nest in it. -/
  depth : Nat := 0
  /-- Whether it may be repeated, which flags may not. -/
  repeatable : Bool := true
  deriving DecidableEq, Repr

namespace Node

def depthAround (nodes : List Node) : Nat :=
  nodes.foldl (fun depth n => max depth n.depth) 0 + 1

def sequence : List Node → Node
  | [] => { pattern := .empty }
  | [n] => n
  | nodes =>
    { pattern := nodes.foldr (fun n p => n.pattern.followedBy p) .empty
      depth := depthAround nodes }

/-- The first of some patterns, or else the next. -/
def firstOf : List Pattern → Pattern
  | [] => .empty
  | [p] => p
  | p :: ps => .either p (firstOf ps)

def choice : List Node → Node
  | [n] => n
  | nodes => { pattern := firstOf (nodes.map pattern), depth := depthAround nodes }

end Node

/-- What was read before a group, and how what follows the group is read. -/
structure Outer where
  manner : Manner
  branches : List Node
  nodes : List Node
  deriving DecidableEq, Repr

structure Draft where
  manner : Manner := {}
  /-- The alternatives before the current one. -/
  branches : List Node := []
  /-- The pieces of the current alternative. -/
  nodes : List Node := []
  /-- The groups around, innermost first. -/
  outer : List Outer := []
  names : List (List Char) := []
  deriving DecidableEq, Repr

namespace Draft

def put (d : Draft) (n : Node) : Draft :=
  { d with nodes := d.nodes ++ [n] }

def nextBranch (d : Draft) : Draft :=
  { d with branches := d.branches ++ [.sequence d.nodes], nodes := [] }

def whole (d : Draft) : Node :=
  .choice (d.branches ++ [.sequence d.nodes])

def enter (d : Draft) (inside : Manner) : Draft :=
  { d with manner := inside, branches := [], nodes := [],
           outer := ⟨d.manner, d.branches, d.nodes⟩ :: d.outer }

def leave? (d : Draft) : Option Draft :=
  match d.outer with
  | [] => none
  | o :: outer =>
    let group : Node := { pattern := d.whole.pattern, depth := d.whole.depth + 1 }
    some { d with manner := o.manner, branches := o.branches, nodes := o.nodes ++ [group], outer }

def repeated? (d : Draft) (times : Pattern → Pattern) : Option Draft :=
  match d.nodes.getLast? with
  | none => none
  | some n =>
    if n.repeatable then
      some { d with
        nodes := d.nodes.dropLast ++ [{ pattern := times n.pattern, depth := n.depth + 1 }] }
    else none

end Draft

def literal? (m : Manner) (c : Char) (byte : Bool) : Option Pattern :=
  if m.wide then (if m.anyCase then none else some (.one (.only c)))
  else if byte && 0x80 ≤ c.toNat then none
  else if m.anyCase && c.isAlpha then some (.one (.anyCase (.only c)))
  else some (.one (.only c))

def Look.isAboutWords : Look → Bool
  | .wordEdge | .noWordEdge | .wordStart | .wordEnd => true
  | _ => false

def escaped? (m : Manner) : Escaped → Option Pattern
  | .char c byte => literal? m c byte
  | .among rs negated => if m.wide || negated then none else some (.one (.among rs))
  | .edge l => if m.wide && l.isAboutWords then none else some (.look l)

def dot? (m : Manner) : Option Pattern :=
  if !m.wide then none
  else if m.allDots then some (.one (.complement .none))
  else if m.returns then some (.one (.complement (.among [(0x0A, 0x0A), (0x0D, 0x0D)])))
  else some (.one (.complement (.only '\n')))

def startLook (m : Manner) : Look :=
  if !m.lines then .textStart else if m.returns then .anyLineStart else .lineStart

def endLook (m : Manner) : Look :=
  if !m.lines then .textEnd else if m.returns then .anyLineEnd else .lineEnd

def isName : List Char → Bool
  | [] => false
  | c :: cs =>
    (c == '_' || Text.isLetter c) &&
      cs.all fun c => c == '_' || c == '.' || c == '[' || c == ']' || Text.isLetterOrNumber c

/-- A group with a name, begun; the text starts with the name. -/
def enterNamed? (d : Draft) (cs : List Char) : Option (Draft × List Char) :=
  let name := cs.takeWhile (· != '>')
  match cs.dropWhile (· != '>') with
  | _ :: rest =>
    if isName name && !d.names.contains name then
      some ({ d.enter d.manner with names := name :: d.names }, rest)
    else none
  | [] => none

/-- A group begun, or flags set, after an opening parenthesis. -/
def readOpening (d : Draft) (cs : List Char) : Option (Draft × List Char) :=
  match d.manner.skip cs with
  | '?' :: 'P' :: '<' :: cs => enterNamed? d cs
  | '?' :: '<' :: cs => enterNamed? d cs
  | '?' :: cs =>
    match d.manner.readFlags true [] cs with
    | some (m, _, ':' :: rest) => some (d.enter m, rest)
    | some (m, _ :: _, ')' :: rest) =>
      some ({ d with manner := m }.put { pattern := .empty, repeatable := false }, rest)
    | _ => none
  | cs => some (d.enter d.manner, cs)

/-- A repetition after its sign. A question mark after the sign makes it reluctant. -/
def readRepetition (d : Draft) (times : Bool → Pattern → Pattern) (cs : List Char) :
    Option (Draft × List Char) :=
  let reluctant := cs.head? = some '?'
  let eager := reluctant == d.manner.swapped
  (d.repeated? (times eager)).map fun d => (d, if reluctant then cs.drop 1 else cs)

/-- The next piece of a pattern that is being read, and what follows. -/
def readNext (steps : Nat) (d : Draft) : List Char → Option (Draft × List Char)
  | '(' :: cs => readOpening d cs
  | ')' :: cs => d.leave?.map fun d => (d, cs)
  | '|' :: cs => some (d.nextBranch, cs)
  | '[' :: cs =>
    (readBrackets steps d.manner cs).map fun (chars, part, rest) =>
      (d.put { pattern := .one chars, depth := part.depth }, rest)
  | '?' :: cs => readRepetition d optional cs
  | '*' :: cs => readRepetition d anyTimes cs
  | '+' :: cs => readRepetition d once cs
  | '{' :: _ => none
  | '\\' :: cs =>
    match readEscape d.manner cs with
    | some (e, rest) => (escaped? d.manner e).map fun p => (d.put { pattern := p }, rest)
    | none => none
  | '.' :: cs => (dot? d.manner).map fun p => (d.put { pattern := p }, cs)
  | '^' :: cs => some (d.put { pattern := .look (startLook d.manner) }, cs)
  | '$' :: cs => some (d.put { pattern := .look (endLook d.manner) }, cs)
  | c :: cs => (literal? d.manner c false).map fun p => (d.put { pattern := p }, cs)
  | [] => none

/-- The rest of a pattern. Every step takes at least one character. -/
def readAll : Nat → Draft → List Char → Option Node
  | 0, _, _ => none
  | steps + 1, d, cs =>
    match d.manner.skip cs with
    | [] => if d.outer.isEmpty then some d.whole else none
    | cs => (readNext (2 * cs.length) d cs).bind fun (d, rest) => readAll steps d rest

def depthLimit : Nat := 250

/-- The pattern that a text spells. -/
def ofText? (text : List Char) : Option Pattern :=
  match readAll (text.length + 1) {} text with
  | some n => if n.depth ≤ depthLimit then some n.pattern else none
  | none => none

end LoanPricing.Pattern
