/-!
# Decimal numerals — digits, and the texts of whole numbers

A numeral is an optional sign followed by decimal digits. Leading zeros are allowed, blanks and
separators are not.
-/

namespace LoanPricing.Text

/-- The value of one of the digits `0` to `9`. -/
def digit? (c : Char) : Option Nat :=
  if '0' ≤ c ∧ c ≤ '9' then some (c.toNat - '0'.toNat) else none

def isDigit (c : Char) : Bool :=
  (digit? c).isSome

/-- The value of one of the digits `0` to `9`, `a` to `f`, `A` to `F`. -/
def hexDigit? (c : Char) : Option Nat :=
  if '0' ≤ c ∧ c ≤ '9' then some (c.toNat - '0'.toNat)
  else if 'a' ≤ c ∧ c ≤ 'f' then some (c.toNat - 'a'.toNat + 10)
  else if 'A' ≤ c ∧ c ≤ 'F' then some (c.toNat - 'A'.toNat + 10)
  else none

/-- The number that digits of the given base spell, on top of `acc`; none if some character is no
digit. -/
def natOn? (base : Nat) (value? : Char → Option Nat) (acc : Nat) : List Char → Option Nat
  | [] => some acc
  | c :: cs =>
    match value? c with
    | some d => natOn? base value? (acc * base + d) cs
    | none => none

def nat? : List Char → Option Nat
  | [] => none
  | cs => natOn? 10 digit? 0 cs

/-- The number that a run of characters spells, each character that is no digit counting as zero:
used on runs already known to be digits. -/
def natOf (digits : List Char) : Nat :=
  digits.foldl (fun acc c => acc * 10 + (digit? c).getD 0) 0

/-- The whole number that an optional single sign and one or more decimal digits spell. -/
def int? : List Char → Option Int
  | '+' :: cs => (nat? cs).map Int.ofNat
  | '-' :: cs => (nat? cs).map fun n => -(n : Int)
  | cs => (nat? cs).map Int.ofNat

/-- The whole number that a text spells, if it lies between `low` and `high`. -/
def intWithin? (low high : Int) (cs : List Char) : Option Int :=
  (int? cs).filter fun n => decide (low ≤ n) && decide (n ≤ high)

/-- A whole number that fits 32 bits, read from its decimal text. -/
def int32? (cs : List Char) : Option Int32 :=
  (intWithin? Int32.minValue.toInt Int32.maxValue.toInt cs).map Int32.ofInt

/-- A whole number that fits 64 bits, read from its decimal text. -/
def int64? (cs : List Char) : Option Int :=
  intWithin? Int64.minValue.toInt Int64.maxValue.toInt cs

/-- A number below 2^64 read from decimal digits with an optional plus sign. -/
def word64? (cs : List Char) : Option Nat :=
  let unsigned := match cs with
    | '+' :: rest => rest
    | _ => cs
  (nat? unsigned).filter (· < UInt64.size)

def ofNat (n : Nat) : List Char :=
  Nat.toDigits 10 n

/-- The decimal text of a whole number, with a minus sign if it is negative. -/
def ofInt (n : Int) : List Char :=
  if n < 0 then '-' :: ofNat n.natAbs else ofNat n.natAbs

@[simp] theorem nat?_nil : nat? [] = none := rfl

end LoanPricing.Text
