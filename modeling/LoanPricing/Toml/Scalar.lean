import LoanPricing.Decimal.Reader
import LoanPricing.Toml.Value

/-!
# TOML scalars — numbers, flags and moments

A scalar without quotes is a run of letters, digits and the signs that occur in numbers and
moments. Underscores may stand between two digits of a number. Whole numbers have to fit 64 bits,
and other numbers must not overflow.
-/

namespace LoanPricing.Toml

open Text (digit? isDigit natOf natOn?)

/-- The characters of a scalar without quotes. -/
def isScalarChar (c : Char) : Bool :=
  c.isAlphanum || c == '_' || c == '+' || c == '-' || c == '.' || c == ':'

/-- Digits without the underscores between them; none if an underscore does not stand between two
digits, or if there is no digit. -/
def ungroup? (isDigit : Char → Bool) (afterDigit : Bool) : List Char → Option (List Char)
  | [] => if afterDigit then some [] else none
  | c :: cs =>
    if isDigit c then (ungroup? isDigit true cs).map (c :: ·)
    else if c = '_' ∧ afterDigit then ungroup? isDigit false cs
    else none

/-- Decimal digits of a whole number: no zero stands in front of others. -/
def wholeDigits? (cs : List Char) : Option (List Char) :=
  match ungroup? isDigit false cs with
  | some ('0' :: _ :: _) => none
  | digits => digits

def baseDigit? (base : Nat) (c : Char) : Option Nat :=
  (Text.hexDigit? c).filter (· < base)

def based? (base : Nat) (cs : List Char) : Option Int :=
  match ungroup? (fun c => (baseDigit? base c).isSome) false cs with
  | some digits => (natOn? base (baseDigit? base) 0 digits).map Int.ofNat
  | none => none

/-- The whole number that a text spells, of any size. -/
def anyInt? : List Char → Option Int
  | '0' :: 'x' :: cs => based? 16 cs
  | '0' :: 'o' :: cs => based? 8 cs
  | '0' :: 'b' :: cs => based? 2 cs
  | '+' :: cs => (wholeDigits? cs).map fun digits => (natOf digits : Int)
  | '-' :: cs => (wholeDigits? cs).map fun digits => -(natOf digits : Int)
  | cs => (wholeDigits? cs).map fun digits => (natOf digits : Int)

def fits (n : Int) : Bool :=
  Int64.minValue.toInt ≤ n && n ≤ Int64.maxValue.toInt

/-- The exponent part of a number, without underscores. -/
def exponentPart? : List Char → Option (List Char)
  | [] => some []
  | e :: cs =>
    if e = 'e' ∨ e = 'E' then
      match cs with
      | '+' :: cs => (ungroup? isDigit false cs).map fun digits => 'e' :: '+' :: digits
      | '-' :: cs => (ungroup? isDigit false cs).map fun digits => 'e' :: '-' :: digits
      | cs => (ungroup? isDigit false cs).map fun digits => 'e' :: digits
    else none

def inGroup (c : Char) : Bool :=
  isDigit c || c == '_'

/-- The text of an unsigned number with a fraction or an exponent, without underscores. -/
def plainNumber? (cs : List Char) : Option (List Char) :=
  match wholeDigits? (cs.takeWhile inGroup), cs.dropWhile inGroup with
  | none, _ => none
  | some _, [] => none
  | some whole, '.' :: rest =>
    match ungroup? isDigit false (rest.takeWhile inGroup),
        exponentPart? (rest.dropWhile inGroup) with
    | some fraction, some exponent => some (whole ++ '.' :: fraction ++ exponent)
    | _, _ => none
  | some whole, rest => (exponentPart? rest).map fun exponent => whole ++ exponent

/-- The unsigned number that a text spells. -/
def magnitude? (cs : List Char) : Option Float :=
  if cs = ['i', 'n', 'f'] then some (1.0 / 0.0)
  else if cs = ['n', 'a', 'n'] then some (0.0 / 0.0)
  else ((plainNumber? cs).bind Decimal.float?).filter Float.isFinite

/-- The number that is not whole that a text spells. -/
def number? : List Char → Option Float
  | '+' :: cs => magnitude? cs
  | '-' :: cs => (magnitude? cs).map fun x => -x
  | cs => magnitude? cs

def scalar? (cs : List Char) : Option Value :=
  if cs = ['t', 'r', 'u', 'e'] then some (.flag true)
  else if cs = ['f', 'a', 'l', 's', 'e'] then some (.flag false)
  else
    match anyInt? cs with
    | some n => if fits n then some (.int n) else none
    | none =>
      match number? cs with
      | some x => some (.number x)
      | none => (moment? cs).map .moment

/-- Whether a scalar is a date and a space and a digit follow, which makes them one moment. -/
def goesOnAfterSpace (scalar rest : List Char) : Bool :=
  match readDate scalar, rest with
  | some (_, []), ' ' :: c :: _ => isDigit c
  | _, _ => false

/-- A scalar without quotes at the front of a text, and what follows it. -/
def readScalar (cs : List Char) : Option (Value × List Char) :=
  let scalar := cs.takeWhile isScalarChar
  let rest := cs.dropWhile isScalarChar
  let (scalar, rest) :=
    if goesOnAfterSpace scalar rest then
      (scalar ++ ' ' :: (rest.drop 1).takeWhile isScalarChar,
        (rest.drop 1).dropWhile isScalarChar)
    else (scalar, rest)
  (scalar? scalar).map fun v => (v, rest)

end LoanPricing.Toml
