import LoanPricing.Text.Numeral

/-!
# Reading decimals — the nearest double of a text

The texts read here are those of the option for the rate, of numbers in the environment and, with
the underscores removed, of numbers in configuration files. A text is an optional sign before

* `inf`, `infinity` or `nan` in any case, or
* digits with at most one point somewhere before, between or after them, and optionally `e` or `E`
  with a whole number that has at least one digit.

The result is the double nearest to the number, infinite where that overflows.
-/

namespace LoanPricing.Decimal

open Text (digit? isDigit natOf)

/-- An exponent: digits with an optional sign. -/
def exponent? (cs : List Char) : Option Int :=
  Text.int? cs

/-- The exponent part of a number, if there is one: the rest of a number after its digits. -/
def exponentPart? : List Char → Option Int
  | [] => some 0
  | c :: cs => if c = 'e' ∨ c = 'E' then exponent? cs else none

/-- The double nearest to `digits · 10 ^ exponent`. -/
def nearest (digits : Nat) (exponent : Int) : Float :=
  if exponent < 0 then Float.ofScientific digits true exponent.natAbs
  else Float.ofScientific digits false exponent.natAbs

def unsigned? (cs : List Char) : Option Float :=
  let whole := cs.takeWhile isDigit
  let rest := cs.dropWhile isDigit
  let (fraction, rest) := match rest with
    | '.' :: rest => (rest.takeWhile isDigit, rest.dropWhile isDigit)
    | _ => ([], rest)
  if whole.isEmpty && fraction.isEmpty then none
  else
    (exponentPart? rest).map fun e =>
      nearest (natOf (whole ++ fraction)) (e - (fraction.length : Int))

def word? (cs : List Char) : Option Float :=
  let small := cs.map Char.toLower
  if small = ['i', 'n', 'f'] ∨ small = ['i', 'n', 'f', 'i', 'n', 'i', 't', 'y'] then
    some (1.0 / 0.0)
  else if small = ['n', 'a', 'n'] then some (0.0 / 0.0)
  else none

def magnitude? (cs : List Char) : Option Float :=
  match word? cs with
  | some x => some x
  | none => unsigned? cs

def float? : List Char → Option Float
  | '+' :: cs => magnitude? cs
  | '-' :: cs => (magnitude? cs).map fun x => -x
  | cs => magnitude? cs

end LoanPricing.Decimal
