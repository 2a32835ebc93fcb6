import LoanPricing.Decimal.Binary

/-!
# Shortest decimals — the fewest digits that read back

Among the decimal numbers that are nearer to a double than to any other double, those with the
fewest digits are the candidates, and of these the one nearest to the double is chosen. The
search goes over decimal grids, from coarse to fine: on a grid of step `10 ^ k` only the two grid
points around the double can be candidates, and the first grid with a candidate has the fewest
digits. All comparisons are between natural numbers.
-/

namespace LoanPricing.Decimal

/-- A decimal magnitude, `digits · 10 ^ exponent`. -/
structure Numeral where
  digits : Nat
  exponent : Int
  deriving DecidableEq, Repr

/-- Which of two equally near candidates is taken. -/
inductive Tie where
  /-- The greater one. -/
  | up
  /-- The one with an even last digit. -/
  | even
  deriving DecidableEq, Repr

/-- The decimals that read back as one double, in units of a quarter of its last binary place:
those from `center - below` to `center + 2`, the ends included if `closed`. -/
structure Neighbourhood where
  center : Nat
  below : Nat
  /-- The unit is `2 ^ unit`. -/
  unit : Int
  closed : Bool
  deriving DecidableEq, Repr

/-- The neighbourhood of a double: half the way to its neighbours, the ends belonging to it if its
mantissa is even. -/
def Binary.neighbourhood (b : Binary) : Neighbourhood where
  center := 4 * b.mantissa
  below := if b.narrowBelow then 1 else 2
  unit := b.exponent - 2
  closed := b.mantissa % 2 == 0

/-- The candidate on the grid of step `10 ^ k`, if there is one. -/
def Neighbourhood.candidate? (tie : Tie) (n : Neighbourhood) (k : Int) : Option Nat :=
  let scale := Nat.pow 2 n.unit.toNat * Nat.pow 10 (-k).toNat
  let step := Nat.pow 2 (-n.unit).toNat * Nat.pow 10 k.toNat
  let center := n.center * scale
  let low := (n.center - n.below) * scale
  let high := (n.center + 2) * scale
  let inside (d : Nat) : Bool :=
    if n.closed then low ≤ d * step && d * step ≤ high else low < d * step && d * step < high
  let down := center / step
  let up := down + 1
  if inside down && inside up then
    let toDown := center - down * step
    let toUp := up * step - center
    if toDown < toUp then some down
    else if toUp < toDown then some up
    else match tie with
      | .up => some up
      | .even => some (if down % 2 = 0 then down else up)
  else if inside down then some down
  else if inside up then some up
  else none

/-- The first candidate on the grids of step `10 ^ k`, `10 ^ (k - 1)`, and so on. -/
def Neighbourhood.search (tie : Tie) (n : Neighbourhood) : Nat → Int → Numeral
  | 0, k =>
    { digits := n.center * Nat.pow 2 n.unit.toNat / Nat.pow 2 (-n.unit).toNat, exponent := k }
  | tries + 1, k =>
    match n.candidate? tie k with
    | some d => { digits := d, exponent := k }
    | none => n.search tie tries (k - 1)

/-- A decimal exponent that is at least that of the number's first digit. -/
def Neighbourhood.topExponent (n : Neighbourhood) : Int :=
  ((n.center.log2 : Int) + n.unit + 1) * 30103 / 100000 + 1

def Numeral.trimmed (d : Numeral) : Numeral :=
  if _h : d.digits ≠ 0 ∧ d.digits % 10 = 0 then
    Numeral.trimmed { digits := d.digits / 10, exponent := d.exponent + 1 }
  else d
termination_by d.digits
decreasing_by exact Nat.div_lt_self (by omega) (by decide)

/-- The shortest decimal of the magnitude of a finite double; seventeen digits always suffice. -/
def shortest (tie : Tie) (x : Float) : Numeral :=
  let b := Binary.ofFloat x
  if b.mantissa = 0 then { digits := 0, exponent := 0 }
  else
    let n := b.neighbourhood
    (n.search tie 24 n.topExponent).trimmed

end LoanPricing.Decimal
