import LoanPricing.Json.Text

/-!
# JSON numbers — whole numbers, and doubles by one multiplication

A numeral without point and exponent that fits 64 bits is a whole number; the text `-0` and every
other numeral is a double. Such a double is not always the nearest one. The digits are gathered
into a *significand* as long as it stays below 2^64. Once a digit would take it over, the further
digits before the point only raise the exponent and those after it are dropped. Then the
significand is converted, and multiplied or divided once by a power of ten from a table that ends
at `10 ^ 308`; only for exponents below `-308` is it first divided by `10 ^ 308` repeatedly.

A result that is not finite is refused, and so is an exponent above `308` of a significand that is
not zero.
-/

namespace LoanPricing.Json

open Text (digit? isDigit)

inductive Number where
  /-- A whole number that fits 64 bits, unsigned or, below zero, signed. -/
  | whole (n : Int)
  | double (x : Float)
  deriving DecidableEq, Repr

def tableEnd : Nat := 308

def powerOfTen (exponent : Nat) : Float :=
  Float.ofScientific 1 false exponent

def significandToFloat (significand : Nat) : Float :=
  significand.toUInt64.toFloat

/-- A double divided by a power of ten: in one step up to `10 ^ 308`, beyond it by `10 ^ 308` at a
time until nothing is left. -/
def divideByPower (x : Float) (exponent : Nat) : Float :=
  if exponent ≤ tableEnd then x / powerOfTen exponent
  else if x == 0.0 then x
  else divideByPower (x / powerOfTen tableEnd) (exponent - tableEnd)
termination_by exponent
decreasing_by simp only [tableEnd] at *; omega

/-- The double `significand · 10 ^ exponent` by the rule above; none if it is too large. -/
def scale? (significand : Nat) (exponent : Int) : Option Float :=
  let x := significandToFloat significand
  if exponent < 0 then some (divideByPower x exponent.natAbs)
  else if exponent.natAbs ≤ tableEnd then
    let y := x * powerOfTen exponent.natAbs
    if y.isInf then none else some y
  else if x == 0.0 then some x
  else none

def withSign (negative : Bool) (x : Float) : Float :=
  if negative then -x else x

structure Digits where
  significand : Nat
  exponent : Int
  deriving DecidableEq, Repr

/-- Whether one more digit would take the significand to 2^64. -/
def Digits.isFull (d : Digits) (digit : Nat) : Bool :=
  UInt64.size ≤ d.significand * 10 + digit

/-- The double of the gathered digits; a fault counts everything up to `rest` as read. -/
def Digits.finish (negative : Bool) (d : Digits) (rest : List Char) : Reading Float :=
  match scale? d.significand d.exponent with
  | some x => .ok (withSign negative x, rest)
  | none => .error (fault .numberTooLarge rest)

/-- The digits at the front of an exponent on top of `acc`. An exponent of 2^31 or more stops the
reading there, with the rest of the digits still to come. -/
def gatherExponent (acc : Nat) : List Char → Option Nat × List Char
  | [] => (some acc, [])
  | c :: cs =>
    match digit? c with
    | none => (some acc, c :: cs)
    | some d =>
      let next := acc * 10 + d
      if next < 0x80000000 then gatherExponent next cs else (none, cs)

/-- The sign of an exponent: whether it is negative, and what follows the sign. -/
def exponentSign : List Char → Bool × List Char
  | '+' :: cs => (false, cs)
  | '-' :: cs => (true, cs)
  | cs => (false, cs)

/-- The end of a double, from what follows the `e` of its exponent. -/
def readExponent (negative : Bool) (d : Digits) (cs : List Char) : Reading Float :=
  let (down, cs) := exponentSign cs
  match cs with
  | [] => .error (fault .endInValue [])
  | c :: cs =>
    match digit? c with
    | none => .error (faultAhead .badNumber (c :: cs))
    | some first =>
      match gatherExponent first cs with
      | (some e, rest) =>
        { d with exponent := if down then d.exponent - e else d.exponent + e }.finish negative rest
      | (none, rest) =>
        if d.significand ≠ 0 ∧ ¬ down then .error (fault .numberTooLarge rest)
        else .ok (withSign negative 0.0, rest.dropWhile isDigit)

/-- The end of a double from the point where an exponent may follow. -/
def readExponentIfAny (negative : Bool) (d : Digits) : List Char → Reading Float
  | 'e' :: cs => readExponent negative d cs
  | 'E' :: cs => readExponent negative d cs
  | cs => d.finish negative cs

/-- The digits after a point. Once the significand is full they are dropped. -/
def gatherFraction (d : Digits) : List Char → Digits × List Char
  | [] => (d, [])
  | c :: cs =>
    match digit? c with
    | none => (d, c :: cs)
    | some digit =>
      if d.isFull digit then (d, cs.dropWhile isDigit)
      else
        gatherFraction
          { significand := d.significand * 10 + digit, exponent := d.exponent - 1 } cs

/-- The end of a double, from what follows its point. -/
def readFraction (negative : Bool) (d : Digits) (cs : List Char) : Reading Float :=
  match cs with
  | [] => .error (fault .endInValue [])
  | c :: _ =>
    if isDigit c then
      let (d, rest) := gatherFraction d cs
      readExponentIfAny negative d rest
    else .error (faultAhead .badNumber cs)

/-- The end of a double, from what follows the digits before the point. -/
def readDoubleTail (negative : Bool) (d : Digits) : List Char → Reading Float
  | '.' :: cs => readFraction negative d cs
  | cs => readExponentIfAny negative d cs

/-- Whether a numeral goes on with a point or an exponent. -/
def goesOn : List Char → Bool
  | '.' :: _ => true
  | 'e' :: _ => true
  | 'E' :: _ => true
  | _ => false

/-- A whole number if the numeral ends here and fits 64 bits, else a double. -/
def readNumberTail (negative : Bool) (significand : Nat) (cs : List Char) : Reading Number :=
  if goesOn cs then
    (readDoubleTail negative ⟨significand, 0⟩ cs).map fun (x, rest) => (.double x, rest)
  else if ¬ negative then .ok (.whole significand, cs)
  else if 0 < significand ∧ significand ≤ 0x8000000000000000 then .ok (.whole (-significand), cs)
  else .ok (.double (-significandToFloat significand), cs)

/-- The digits before the point, gathered on top of `significand`, and the rest of the number.
Once the significand is full the further digits are counted. -/
def readDigits (negative : Bool) (significand : Nat) : List Char → Reading Number
  | [] => readNumberTail negative significand []
  | c :: cs =>
    match digit? c with
    | none => readNumberTail negative significand (c :: cs)
    | some digit =>
      let d : Digits := ⟨significand, 0⟩
      if d.isFull digit then
        let surplus := (c :: cs).takeWhile isDigit
        let rest := (c :: cs).dropWhile isDigit
        (readDoubleTail negative ⟨significand, surplus.length⟩ rest).map fun (x, rest) =>
          (.double x, rest)
      else readDigits negative (significand * 10 + digit) cs

/-- A number without its sign. A leading zero stands alone. -/
def readMagnitude (negative : Bool) : List Char → Reading Number
  | [] => .error (fault .endInValue [])
  | '0' :: cs =>
    match cs with
    | c :: _ =>
      if isDigit c then .error (faultAhead .badNumber cs) else readNumberTail negative 0 cs
    | [] => readNumberTail negative 0 []
  | c :: cs =>
    match digit? c with
    | some first => readDigits negative first cs
    | none => .error (faultAhead .badNumber (c :: cs))

/-- A number, from the point where a digit or a minus sign stands. -/
def readNumber : List Char → Reading Number
  | '-' :: cs => readMagnitude true cs
  | cs => readMagnitude false cs

/-- What follows the exponent of a number that is skipped, from what follows its `e`. -/
def skipExponent (cs : List Char) : Except Fault (List Char) :=
  let (_, cs) := exponentSign cs
  match cs with
  | [] => .error (fault .badNumber [])
  | c :: rest =>
    if isDigit c then .ok (rest.dropWhile isDigit) else .error (faultAhead .badNumber cs)

/-- What follows a number that is skipped, from the point where an exponent may follow. -/
def skipExponentIfAny : List Char → Except Fault (List Char)
  | 'e' :: cs => skipExponent cs
  | 'E' :: cs => skipExponent cs
  | cs => .ok cs

/-- What follows a number that is skipped, from what follows the digits before the point. -/
def skipNumberTail : List Char → Except Fault (List Char)
  | '.' :: cs =>
    match cs with
    | [] => .error (fault .badNumber [])
    | c :: rest =>
      if isDigit c then skipExponentIfAny (rest.dropWhile isDigit)
      else .error (faultAhead .badNumber cs)
  | cs => skipExponentIfAny cs

/-- What follows a number without its sign that is skipped. -/
def skipMagnitude : List Char → Except Fault (List Char)
  | [] => .error (fault .badNumber [])
  | '0' :: cs =>
    match cs with
    | c :: _ => if isDigit c then .error (faultAhead .badNumber cs) else skipNumberTail cs
    | [] => .ok []
  | c :: cs =>
    if isDigit c then skipNumberTail (cs.dropWhile isDigit)
    else .error (faultAhead .badNumber (c :: cs))

/-- What follows a number that is skipped. Its size does not matter. -/
def skipNumber : List Char → Except Fault (List Char)
  | '-' :: cs => skipMagnitude cs
  | cs => skipMagnitude cs

theorem length_of_map_ok {α β : Type} {f : α → β} {x : Reading α} {b : β} {rest : List Char}
    (h : (x.map fun (a, after) => (f a, after)) = .ok (b, rest)) :
    ∃ a, x = .ok (a, rest) ∧ f a = b := by
  cases x with
  | error e => simp [Except.map] at h
  | ok p =>
    obtain ⟨a, after⟩ := p
    simp only [Except.map, Except.ok.injEq, Prod.mk.injEq] at h
    exact ⟨a, by rw [h.2], h.1⟩

theorem dropDigits_length (cs : List Char) : (cs.dropWhile isDigit).length ≤ cs.length :=
  (List.dropWhile_sublist isDigit).length_le

theorem finish_length {negative : Bool} {d : Digits} {cs rest : List Char} {x : Float}
    (h : d.finish negative cs = .ok (x, rest)) : rest.length ≤ cs.length := by
  unfold Digits.finish at h
  split at h
  · simp only [Except.ok.injEq, Prod.mk.injEq] at h
    exact Nat.le_of_eq (congrArg List.length h.2.symm)
  · simp at h

theorem gatherExponent_length (acc : Nat) (cs : List Char) :
    (gatherExponent acc cs).2.length ≤ cs.length := by
  induction cs generalizing acc with
  | nil => simp [gatherExponent]
  | cons c cs ih =>
    simp only [gatherExponent]
    split
    · simp
    · rename_i d _
      split
      · have := ih (acc * 10 + d)
        simp only [List.length_cons]
        omega
      · simp

theorem exponentSign_length (cs : List Char) : (exponentSign cs).2.length ≤ cs.length := by
  unfold exponentSign
  split <;> simp

theorem readExponent_length {negative : Bool} {d : Digits} {cs rest : List Char} {x : Float}
    (h : readExponent negative d cs = .ok (x, rest)) : rest.length ≤ cs.length := by
  have hs := exponentSign_length cs
  unfold readExponent at h
  simp only at h
  split at h
  · simp at h
  · rename_i c tail heq
    rw [heq, List.length_cons] at hs
    split at h
    · simp at h
    · rename_i first _
      have hg := gatherExponent_length first tail
      split at h
      · rename_i hx
        have := finish_length h
        rw [hx] at hg
        simp only at hg
        omega
      · rename_i after hx
        rw [hx] at hg
        simp only at hg
        split at h
        · simp at h
        · simp only [Except.ok.injEq, Prod.mk.injEq] at h
          have := dropDigits_length after
          rw [← h.2]
          omega

theorem readExponentIfAny_length {negative : Bool} {d : Digits} {cs rest : List Char} {x : Float}
    (h : readExponentIfAny negative d cs = .ok (x, rest)) : rest.length ≤ cs.length := by
  unfold readExponentIfAny at h
  split at h
  · have := readExponent_length h
    simp only [List.length_cons]
    omega
  · have := readExponent_length h
    simp only [List.length_cons]
    omega
  · exact finish_length h

theorem gatherFraction_length (d : Digits) (cs : List Char) :
    (gatherFraction d cs).2.length ≤ cs.length := by
  induction cs generalizing d with
  | nil => simp [gatherFraction]
  | cons c cs ih =>
    simp only [gatherFraction]
    split
    · simp
    · split
      · have := dropDigits_length cs
        simp only [List.length_cons]
        omega
      · rename_i digit _ _
        have := ih { significand := d.significand * 10 + digit, exponent := d.exponent - 1 }
        simp only [List.length_cons]
        omega

theorem readFraction_length {negative : Bool} {d : Digits} {cs rest : List Char} {x : Float}
    (h : readFraction negative d cs = .ok (x, rest)) : rest.length ≤ cs.length := by
  unfold readFraction at h
  split at h
  · simp at h
  · rename_i c tail
    split at h
    · have h1 := readExponentIfAny_length h
      have h2 := gatherFraction_length d (c :: tail)
      exact Nat.le_trans h1 h2
    · simp at h

theorem readDoubleTail_length {negative : Bool} {d : Digits} {cs rest : List Char} {x : Float}
    (h : readDoubleTail negative d cs = .ok (x, rest)) : rest.length ≤ cs.length := by
  unfold readDoubleTail at h
  split at h
  · have := readFraction_length h
    simp only [List.length_cons]
    omega
  · exact readExponentIfAny_length h

theorem readNumberTail_length {negative : Bool} {significand : Nat} {cs rest : List Char}
    {n : Number} (h : readNumberTail negative significand cs = .ok (n, rest)) :
    rest.length ≤ cs.length := by
  unfold readNumberTail at h
  split at h
  · obtain ⟨_, hx, _⟩ := length_of_map_ok h
    exact readDoubleTail_length hx
  · split at h
    · simp only [Except.ok.injEq, Prod.mk.injEq] at h
      simp [h.2]
    · split at h <;>
      · simp only [Except.ok.injEq, Prod.mk.injEq] at h
        simp [h.2]

theorem readDigits_length {negative : Bool} {significand : Nat} {cs rest : List Char} {n : Number}
    (h : readDigits negative significand cs = .ok (n, rest)) : rest.length ≤ cs.length := by
  induction cs generalizing significand with
  | nil => exact readNumberTail_length h
  | cons c cs ih =>
    simp only [readDigits] at h
    split at h
    · exact readNumberTail_length h
    · split at h
      · obtain ⟨_, hx, _⟩ := length_of_map_ok h
        exact Nat.le_trans (readDoubleTail_length hx) (dropDigits_length _)
      · have := ih h
        simp only [List.length_cons]
        omega

theorem readMagnitude_length {negative : Bool} {cs rest : List Char} {n : Number}
    (h : readMagnitude negative cs = .ok (n, rest)) : rest.length < cs.length := by
  unfold readMagnitude at h
  split at h
  · simp at h
  · split at h
    · split at h
      · simp at h
      · have := readNumberTail_length h
        simp only [List.length_cons] at *
        omega
    · have := readNumberTail_length h
      simp only [List.length_cons, List.length_nil] at *
      omega
  · split at h
    · have := readDigits_length h
      simp only [List.length_cons]
      omega
    · simp at h

-- A number takes at least one character.
theorem readNumber_length {cs rest : List Char} {n : Number}
    (h : readNumber cs = .ok (n, rest)) : rest.length < cs.length := by
  unfold readNumber at h
  split at h
  · have := readMagnitude_length h
    simp only [List.length_cons]
    omega
  · exact readMagnitude_length h

end LoanPricing.Json
