import LoanPricing.Text.Numeral

/-!
# Moments — dates and times of day in configuration files

A moment is a date, a time of day, or a date with a time and perhaps the distance from universal
time. Between date and time stands a `T` of either case or one space. Seconds may be left out. The
text of a moment is the same for every way of writing it.
-/

namespace LoanPricing.Toml

open Text (digit? isDigit natOf)

structure Date where
  year : Nat
  month : Nat
  day : Nat
  deriving DecidableEq, Repr

/-- A time of day. The fraction of the second, if one is given, is in billionths. -/
structure Time where
  hour : Nat
  minute : Nat
  second : Option Nat
  fraction : Option Nat
  deriving DecidableEq, Repr

inductive Offset where
  /-- Universal time itself. -/
  | universal
  | minutes (n : Int)
  deriving DecidableEq, Repr

inductive Moment where
  | date (d : Date)
  | time (t : Time)
  | full (d : Date) (t : Time) (offset : Option Offset)
  deriving DecidableEq, Repr

def isLeapYear (year : Nat) : Bool :=
  year % 4 == 0 && (year % 100 != 0 || year % 400 == 0)

def daysInMonth (year month : Nat) : Nat :=
  if month = 2 then (if isLeapYear year then 29 else 28)
  else if month = 4 ∨ month = 6 ∨ month = 9 ∨ month = 11 then 30
  else 31

def Date.isValid (d : Date) : Bool :=
  1 ≤ d.month && d.month ≤ 12 && 1 ≤ d.day && d.day ≤ daysInMonth d.year d.month

/-- Whether there is such a time, counting leap seconds. -/
def Time.isValid (t : Time) : Bool :=
  t.hour ≤ 23 && t.minute ≤ 59 && t.second.all (· ≤ 60)

def pair? (a b : Char) : Option Nat :=
  match digit? a, digit? b with
  | some x, some y => some (x * 10 + y)
  | _, _ => none

def readDate : List Char → Option (Date × List Char)
  | a :: b :: c :: d :: '-' :: e :: f :: '-' :: g :: h :: rest =>
    match pair? a b, pair? c d, pair? e f, pair? g h with
    | some century, some year, some month, some day =>
      let date : Date := { year := century * 100 + year, month, day }
      if date.isValid then some (date, rest) else none
    | _, _, _, _ => none
  | _ => none

/-- The billionths that the digits after a point spell; digits beyond the ninth are dropped. -/
def billionths (digits : List Char) : Nat :=
  natOf ((digits ++ List.replicate 9 '0').take 9)

/-- The seconds of a time and what follows them, if there are any. -/
def readSecond : List Char → Option (Option Nat × Option Nat × List Char)
  | ':' :: a :: b :: rest =>
    match pair? a b with
    | none => none
    | some second =>
      match rest with
      | '.' :: more =>
        let digits := more.takeWhile isDigit
        if digits.isEmpty then none
        else some (some second, some (billionths digits), more.dropWhile isDigit)
      | _ => some (some second, none, rest)
  | ':' :: _ => none
  | rest => some (none, none, rest)

def readTime : List Char → Option (Time × List Char)
  | a :: b :: ':' :: c :: d :: rest =>
    match pair? a b, pair? c d, readSecond rest with
    | some hour, some minute, some (second, fraction, rest) =>
      let time : Time := { hour, minute, second, fraction }
      if time.isValid then some (time, rest) else none
    | _, _, _ => none
  | _ => none

/-- The distance from universal time that a text spells. -/
def offset? : List Char → Option Offset
  | [c] => if c = 'Z' ∨ c = 'z' then some .universal else none
  | [sign, a, b, ':', c, d] =>
    match pair? a b, pair? c d with
    | some hours, some minutes =>
      let n := hours * 60 + minutes
      if 23 < hours ∨ 59 < minutes then none
      else if sign = '+' then some (.minutes n)
      else if sign = '-' then some (.minutes (-n))
      else none
    | _, _ => none
  | _ => none

/-- What may stand between a date and a time. -/
def isDivider (c : Char) : Bool :=
  c == 'T' || c == 't' || c == ' '

/-- The moment that a text spells. -/
def moment? (cs : List Char) : Option Moment :=
  match readDate cs with
  | some (d, []) => some (.date d)
  | some (d, divider :: rest) =>
    if isDivider divider then
      match readTime rest with
      | some (t, []) => some (.full d t none)
      | some (t, tail) => (offset? tail).map fun o => .full d t (some o)
      | none => none
    else none
  | none =>
    match readTime cs with
    | some (t, []) => some (.time t)
    | _ => none

/-- The decimal text of a number with zeros in front up to a width. -/
def padded (width n : Nat) : List Char :=
  let digits := Text.ofNat n
  List.replicate (width - digits.length) '0' ++ digits

def Date.shown (d : Date) : List Char :=
  padded 4 d.year ++ '-' :: padded 2 d.month ++ '-' :: padded 2 d.day

/-- The digits of a fraction in billionths, without zeros at the end unless it is zero. -/
def fractionDigits (n : Nat) : List Char :=
  if n = 0 then ['0'] else ((padded 9 n).reverse.dropWhile (· == '0')).reverse

def Time.shown (t : Time) : List Char :=
  let second := match t.second with
    | some s => ':' :: padded 2 s
    | none => []
  let fraction := match t.fraction with
    | some n => '.' :: fractionDigits n
    | none => []
  padded 2 t.hour ++ ':' :: padded 2 t.minute ++ second ++ fraction

def Offset.shown : Offset → List Char
  | .universal => ['Z']
  | .minutes n =>
    (if n < 0 then '-' else '+') :: padded 2 (n.natAbs / 60) ++ ':' :: padded 2 (n.natAbs % 60)

def Moment.shown : Moment → List Char
  | .date d => d.shown
  | .time t => t.shown
  | .full d t none => d.shown ++ 'T' :: t.shown
  | .full d t (some o) => d.shown ++ 'T' :: t.shown ++ o.shown

end LoanPricing.Toml
