import LoanPricing.Pattern.Manner
import LoanPricing.Pattern.Search
import LoanPricing.Text.Numeral

/-!
# Escapes — what a backslash in a pattern stands for

A backslash makes a character stand for itself, or stands with a letter for a character, a class
of characters or a place in the text.
-/

namespace LoanPricing.Pattern

inductive Escaped where
  /-- A character, which may have been given as the number of a byte. -/
  | char (c : Char) (byte : Bool)
  | among (rs : Text.Ranges) (negated : Bool)
  | edge (l : Look)
  deriving DecidableEq, Repr

/-- The number that so many hexadecimal digits spell, on top of `acc`, and what follows. -/
def readHex (m : Manner) (acc : Nat) : Nat → List Char → Option (Nat × List Char)
  | 0, cs => some (acc, cs)
  | count + 1, cs =>
    match m.skip cs with
    | [] => none
    | c :: cs => (Text.hexDigit? c).bind fun d => readHex m (acc * 16 + d) count cs

def hexCount? : Char → Option Nat
  | 'x' => some 2
  | 'u' => some 4
  | 'U' => some 8
  | _ => none

def among? : Char → Option Escaped
  | 'd' => some (.among digits false)
  | 's' => some (.among spaces false)
  | 'w' => some (.among wordCharacters false)
  | 'D' => some (.among digits true)
  | 'S' => some (.among spaces true)
  | 'W' => some (.among wordCharacters true)
  | _ => none

def special? : Char → Option Escaped
  | 'a' => some (.char '\x07' false)
  | 'f' => some (.char '\x0C' false)
  | 't' => some (.char '\t' false)
  | 'n' => some (.char '\n' false)
  | 'r' => some (.char '\r' false)
  | 'v' => some (.char '\x0B' false)
  | 'A' => some (.edge .textStart)
  | 'z' => some (.edge .textEnd)
  | 'b' => some (.edge .wordEdge)
  | 'B' => some (.edge .noWordEdge)
  | '<' => some (.edge .wordStart)
  | '>' => some (.edge .wordEnd)
  | _ => none

/-- What the characters after a backslash stand for, and what follows them. Every ASCII character
but letters, digits and angle brackets stands for itself. -/
def readEscape (m : Manner) : List Char → Option (Escaped × List Char)
  | [] => none
  | c :: cs =>
    match hexCount? c with
    | some count =>
      match readHex m 0 count cs with
      | some (n, rest) =>
        if n.isValidChar then some (.char (Char.ofNat n) (c == 'x'), rest) else none
      | none => none
    | none =>
      match among? c, special? c with
      | some e, _ => some (e, cs)
      | none, some e => some (e, cs)
      | none, none =>
        if c.toNat < 0x80 && !c.isAlphanum then some (.char c false, cs) else none

end LoanPricing.Pattern
