import LoanPricing.Pattern.Escape

/-!
# Brackets — sets of characters in a pattern

Between brackets stand characters, ranges, classes and further brackets, with operations between
them that are carried out from left to right. There are no tables of character properties, so case
can be ignored, and classes can be used, only where characters are confined to ASCII.
-/

namespace LoanPricing.Pattern

structure Part where
  chars : Characters := .none
  /-- How deep brackets and operations nest in it. -/
  depth : Nat := 0
  items : Nat := 0
  /-- Whether something was put into it that has characters. -/
  inhabited : Bool := false
  deriving DecidableEq, Repr

namespace Part

def add (p : Part) (chars : Characters) (depth : Nat) (inhabited : Bool) : Part :=
  { chars := .union p.chars chars, depth := max p.depth depth, items := p.items + 1,
    inhabited := p.inhabited || inhabited }

def joined (p : Part) : Part :=
  { p with depth := if p.items < 2 then p.depth else p.depth + 1 }

/-- The characters, in both cases if case is ignored. -/
def folded? (m : Manner) (p : Part) : Option Characters :=
  if !m.anyCase then some p.chars
  else if m.wide then (if p.inhabited then none else some p.chars)
  else some (.anyCase p.chars)

/-- The characters, or all others. Without wide characters there are no others. -/
def closed? (m : Manner) (negated : Bool) (p : Part) : Option Characters :=
  match p.folded? m with
  | none => none
  | some chars =>
    if !negated then some chars else if m.wide then some (.complement chars) else none

def combined? (m : Manner) (op : Characters → Characters → Characters) (a b : Part) : Option Part :=
  match a.folded? m, b.folded? m with
  | some x, some y =>
    some { chars := op x y, depth := max a.depth b.depth + 1, items := 1,
           inhabited := a.inhabited || b.inhabited }
  | _, _ => none

end Part

/-- A part of a set that is waiting for the right side of an operation. -/
abbrev Waiting := Option ((Characters → Characters → Characters) × Part)

/-- What has been read, with the operation before it carried out. -/
def settled? (m : Manner) (waiting : Waiting) (p : Part) : Option Part :=
  match waiting with
  | none => some p.joined
  | some (op, a) => a.combined? m op p.joined

/-- A named set between brackets and colons, the brackets around it open: whether it is negated,
the set, and what follows. -/
def readNamed : List Char → Option (Bool × Text.Ranges × List Char)
  | '[' :: ':' :: cs =>
    let negated := cs.head? = some '^'
    let cs := if negated then cs.drop 1 else cs
    let name := cs.takeWhile (· != ':')
    match cs.dropWhile (· != ':'), named.lookup (String.ofList name) with
    | ':' :: ']' :: rest, some rs => some (negated, rs, rest)
    | _, _ => none
  | _ => none

/-- A character of a set. Without wide characters it has to be an ASCII character. -/
def member? (m : Manner) (c : Char) : Option Char :=
  if m.wide || c.toNat < 0x80 then some c else none

/-- One character or class inside brackets, and what follows. -/
def readMember (m : Manner) : List Char → Option (Escaped × List Char)
  | [] => none
  | '\\' :: cs => readEscape m cs
  | c :: cs => some (.char c false, cs)

/-- Whether a hyphen in front stands for a range: not before the end or another hyphen. -/
def isRange (m : Manner) : List Char → Bool
  | '-' :: cs => !((m.skip cs).head? = some ']' || (m.skip cs).head? = some '-')
  | _ => false

/-- A part with a character, a range or a class more, and what follows. -/
def readItem (m : Manner) (p : Part) (cs : List Char) : Option (Part × List Char) :=
  match readMember m cs with
  | some (.char c _, rest) =>
    let rest := m.skip rest
    if isRange m rest then
      match readMember m (m.skip (rest.drop 1)), member? m c with
      | some (.char d _, rest), some c =>
        match member? m d with
        | some d =>
          if c.toNat ≤ d.toNat then some (p.add (.among [(c.toNat, d.toNat)]) 0 true, rest)
          else none
        | none => none
      | _, _ => none
    else (member? m c).map fun c => (p.add (.only c) 0 true, rest)
  | some (.among rs negated, rest) =>
    if m.wide || negated || isRange m (m.skip rest) then none
    else some (p.add (.among rs) 0 true, rest)
  | _ => none

/-- The hyphens in front, which stand for themselves, and what follows. -/
def readHyphens (m : Manner) (p : Part) : List Char → Part × List Char
  | [] => (p, [])
  | c :: cs =>
    if c = '-' then readHyphens m (p.add (.only '-') 0 true) cs
    else if m.spaced && Text.isBlank c then readHyphens m p cs
    else (p, c :: cs)

/-- The hyphens in front, or else a closing bracket, which stands for itself here, and what
follows. -/
def readFirst (m : Manner) (p : Part) : List Char → Part × List Char
  | '-' :: cs => readHyphens m (p.add (.only '-') 0 true) cs
  | ']' :: cs => (p.add (.only ']') 0 true, cs)
  | cs => (p, cs)

mutual

/-- A set after what stands first in it, and what follows its closing bracket. -/
def readSet : Nat → Manner → Waiting → Part → List Char → Option (Part × List Char)
  | 0, _, _, _, _ => none
  | steps + 1, m, waiting, p, cs =>
    match m.skip cs with
    | [] => none
    | ']' :: rest => (settled? m waiting p).map fun p => (p, rest)
    | '&' :: '&' :: rest =>
      (settled? m waiting p).bind fun p => readSet steps m (some (.intersection, p)) {} rest
    | '-' :: '-' :: rest =>
      (settled? m waiting p).bind fun p => readSet steps m (some (.difference, p)) {} rest
    | '~' :: '~' :: rest =>
      (settled? m waiting p).bind fun p => readSet steps m (some (.either, p)) {} rest
    | '[' :: rest =>
      match readNamed ('[' :: rest) with
      | some (negated, rs, rest) =>
        let item : Part := { chars := .among rs, inhabited := true }
        (item.closed? m negated).bind fun chars =>
          readSet steps m waiting (p.add chars 0 true) rest
      | none =>
        match readBrackets steps m rest with
        | some (chars, inside, rest) =>
          readSet steps m waiting (p.add chars inside.depth inside.inhabited) rest
        | none => none
    | cs => (readItem m p cs).bind fun (p, rest) => readSet steps m waiting p rest

/-- Brackets after the opening one: the characters, the part between them, and what follows. -/
def readBrackets : Nat → Manner → List Char → Option (Characters × Part × List Char)
  | 0, _, _ => none
  | steps + 1, m, cs =>
    let cs := m.skip cs
    let negated := cs.head? = some '^'
    let (p, cs) := readFirst m {} (m.skip (if negated then cs.drop 1 else cs))
    match readSet steps m none p cs with
    | some (p, rest) =>
      (p.closed? m negated).map fun chars => (chars, { p with depth := p.depth + 1 }, rest)
    | none => none

end

end LoanPricing.Pattern
