/-!
# Binary numbers — a double as an exact multiple of a power of two

A finite double is `± mantissa · 2 ^ exponent`. Everything that prints a double starts from these
three parts, so that its digits are found by exact arithmetic on natural numbers.
-/

namespace LoanPricing.Decimal

/-- Whether the sign bit of a double is set. A value that is no number counts as unsigned. -/
def signBit (x : Float) : Bool :=
  x.toBits >>> 63 == 1

def exponentField (x : Float) : Nat :=
  ((x.toBits >>> 52) &&& 0x7FF).toNat

/-- The fifty-two bits below the exponent field. -/
def fractionField (x : Float) : Nat :=
  (x.toBits &&& 0xFFFFFFFFFFFFF).toNat

/-- The magnitude of a finite double, `mantissa · 2 ^ exponent`. -/
structure Binary where
  mantissa : Nat
  exponent : Int
  /-- Whether the next smaller double is only half as far away as the next greater one: at the
  powers of two above the smallest normal number. -/
  narrowBelow : Bool
  deriving DecidableEq, Repr

def Binary.ofFloat (x : Float) : Binary :=
  let field := exponentField x
  let fraction := fractionField x
  if field = 0 then { mantissa := fraction, exponent := -1074, narrowBelow := false }
  else
    { mantissa := 0x10000000000000 + fraction
      exponent := (field : Int) - 1075
      narrowBelow := fraction == 0 && field != 1 }

end LoanPricing.Decimal
