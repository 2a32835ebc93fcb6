import LoanPricing.Decimal.Shortest
import LoanPricing.Text.Numeral

/-!
# Layouts of a number — plain text, JSON text, log text

One shortest decimal, three ways to write it.

* *Plain* text, in traces, results and messages, never has an exponent and shows no fraction for
  whole numbers.
* *JSON* text shows `.0` for whole numbers, and an exponent, signed in both directions, from
  `1e+16` upwards and below `1e-5`.
* *Log* text shows `.0` for whole numbers, and an exponent without a plus sign from `1e16` upwards
  and below `1e-4`.
-/

namespace LoanPricing.Decimal

open Text (ofNat ofInt)

/-- How many places stand before the decimal point when the decimal is written positionally. -/
def Numeral.point (d : Numeral) : Int :=
  (ofNat d.digits).length + d.exponent

/-- Positional notation. A whole number ends in `wholeEnd`. -/
def Numeral.positional (wholeEnd : List Char) (d : Numeral) : List Char :=
  let digits := ofNat d.digits
  let point := d.point
  if 0 ≤ d.exponent then digits ++ List.replicate d.exponent.toNat '0' ++ wholeEnd
  else if point ≤ 0 then '0' :: '.' :: (List.replicate (-point).toNat '0' ++ digits)
  else digits.take point.toNat ++ '.' :: digits.drop point.toNat

/-- Scientific notation: one digit, the others after a point, and the exponent. -/
def Numeral.scientific (plus : List Char) (d : Numeral) : List Char :=
  let exponent := d.point - 1
  let sign := if 0 ≤ exponent then plus else []
  let significand := match ofNat d.digits with
    | first :: second :: more => first :: '.' :: second :: more
    | digits => digits
  significand ++ 'e' :: (sign ++ ofInt exponent)

def signed (x : Float) (magnitude : List Char) : List Char :=
  if signBit x then '-' :: magnitude else magnitude

/-- The text of a number that has no digits: `NaN`, or `inf` with its sign. -/
def nonFinite (x : Float) : List Char :=
  if x.isNaN then ['N', 'a', 'N'] else signed x ['i', 'n', 'f']

def plain (x : Float) : List Char :=
  if x.isFinite then signed x ((shortest .up x).positional []) else nonFinite x

/-- The plain text of a number, whole numbers ending in `.0`. -/
def plainWithPoint (x : Float) : List Char :=
  if x.isFinite then signed x ((shortest .up x).positional ['.', '0']) else nonFinite x

/-- The JSON text of a finite number. -/
def json (x : Float) : List Char :=
  let d := shortest .even x
  signed x <|
    if d.digits = 0 ∨ (-5 < d.point ∧ d.point ≤ 16) then d.positional ['.', '0']
    else d.scientific ['+']

/-- The text of a number as the value of a field of a log line. -/
def log (x : Float) : List Char :=
  if x.isFinite then
    let d := shortest .up x
    signed x <|
      if d.digits = 0 ∨ (-4 < d.point ∧ d.point ≤ 16) then d.positional ['.', '0']
      else d.scientific []
  else nonFinite x

end LoanPricing.Decimal
