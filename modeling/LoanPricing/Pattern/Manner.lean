import LoanPricing.Text.Blank

/-!
# Flags — how a pattern is read

Flags change how what follows is read, up to the end of the group.
-/

namespace LoanPricing.Pattern

/-- How a pattern is read; the flags. -/
structure Manner where
  /-- Flag `i`: letters stand for both cases. -/
  anyCase : Bool := false
  /-- Flag `m`: `^` and `$` stand for the ends of lines. -/
  lines : Bool := false
  /-- Flag `s`: a dot stands for line feeds as well. -/
  allDots : Bool := false
  /-- Flag `U`: repetitions are eager with a question mark and not without. -/
  swapped : Bool := false
  /-- Flag `u`: characters are not confined to ASCII. -/
  wide : Bool := true
  /-- Flag `R`: lines may end with carriage returns. -/
  returns : Bool := false
  /-- Flag `x`: white space and comments do not count. -/
  spaced : Bool := false
  deriving DecidableEq, Repr

namespace Manner

/-- With a flag on or off; none for an unknown flag. -/
def set? (m : Manner) (on : Bool) : Char → Option Manner
  | 'i' => some { m with anyCase := on }
  | 'm' => some { m with lines := on }
  | 's' => some { m with allDots := on }
  | 'U' => some { m with swapped := on }
  | 'u' => some { m with wide := on }
  | 'R' => some { m with returns := on }
  | 'x' => some { m with spaced := on }
  | _ => none

def skipBlanks (inComment : Bool) : List Char → List Char
  | [] => []
  | c :: cs =>
    if inComment then skipBlanks (c != '\n') cs
    else if Text.isBlank c then skipBlanks false cs
    else if c = '#' then skipBlanks true cs
    else c :: cs

def skip (m : Manner) (cs : List Char) : List Char :=
  if m.spaced then skipBlanks false cs else cs

/-- Flags up to a colon or a closing parenthesis, which stays. The second value are the characters
before it, the last one first. -/
def readFlags (m : Manner) (on : Bool) (seen : List Char) :
    List Char → Option (Manner × List Char × List Char)
  | [] => none
  | c :: cs =>
    if c = ':' || c = ')' then
      if seen.head? = some '-' then none else some (m, seen, c :: cs)
    else if seen.contains c then none
    else if c = '-' then readFlags m false (c :: seen) cs
    else
      match m.set? on c with
      | some m => readFlags m on (c :: seen) cs
      | none => none

end Manner

end LoanPricing.Pattern
