import LoanPricing.Json.Scalar
import LoanPricing.Proofs.Json.NumberExtent

/-!
# Number literals — their parts, and the number that they stand for

A literal is a sign, digits, perhaps a point with more digits, and perhaps an exponent. What it
stands for is said by these parts alone: digits go into the significand one by one as long as it
stays below 2^64, digits that are left before the point raise the exponent, and those after it are
dropped. A reader takes exactly one literal off the front of a text, if the text does not go on like
a number.
-/

namespace LoanPricing.Json

open Text (digit? isDigit natOf)

/-! ## 1. Literals and their numbers -/

/-- One or more digits. -/
def IsDigits (cs : List Char) : Prop :=
  cs ≠ [] ∧ ∀ c ∈ cs, isDigit c = true

instance (cs : List Char) : Decidable (IsDigits cs) :=
  have := List.decidableBAll (fun c => isDigit c = true) cs
  instDecidableAnd

/-- The exponent of a literal: a letter, a sign if there is one, and digits. -/
structure Exponent where
  letter : Char
  sign : Option Char
  digits : List Char
  letter_mem : letter = 'e' ∨ letter = 'E'
  sign_mem : ∀ c ∈ sign, c = '+' ∨ c = '-'
  isDigits : IsDigits digits

structure Literal where
  negative : Bool
  whole : List Char
  fraction : Option (List Char)
  exponent : Option Exponent
  whole_isDigits : IsDigits whole
  /-- A zero at the front stands alone. -/
  whole_zero : whole.head? = some '0' → whole = ['0']
  fraction_isDigits : ∀ ds ∈ fraction, IsDigits ds

def Exponent.text (e : Exponent) : List Char :=
  e.letter :: (e.sign.toList ++ e.digits)

def exponentText : Option Exponent → List Char
  | none => []
  | some e => e.text

def fractionText : Option (List Char) → List Char
  | none => []
  | some digits => '.' :: digits

/-- The text of a literal without its sign. -/
def Literal.magnitude (l : Literal) : List Char :=
  l.whole ++ (fractionText l.fraction ++ exponentText l.exponent)

def Literal.text (l : Literal) : List Char :=
  if l.negative then '-' :: l.magnitude else l.magnitude

def digitValue (c : Char) : Nat :=
  (digit? c).getD 0

/-- The digits before the point on top of those gathered. Once the significand is full the further
ones raise the exponent. -/
def Digits.addWhole (d : Digits) : List Char → Digits
  | [] => d
  | c :: cs =>
    if d.isFull (digitValue c) then { d with exponent := d.exponent + (cs.length + 1) }
    else addWhole { d with significand := d.significand * 10 + digitValue c } cs

/-- The digits after the point on top of those gathered. Once the significand is full the further
ones are dropped. -/
def Digits.addFraction (d : Digits) : List Char → Digits
  | [] => d
  | c :: cs =>
    if d.isFull (digitValue c) then d
    else
      addFraction
        { significand := d.significand * 10 + digitValue c, exponent := d.exponent - 1 } cs

/-- The number of an exponent, if it is below 2^31. -/
def Exponent.size? (e : Exponent) : Option Nat :=
  if natOf e.digits < 0x80000000 then some (natOf e.digits) else none

def Exponent.isDown (e : Exponent) : Bool :=
  e.sign == some '-'

/-- The gathered digits scaled by an exponent. One that is too large makes the number zero or, if it
points up and there are digits that are not zero, too large. -/
def Digits.scaled? (negative : Bool) (d : Digits) : Option Exponent → Option Float
  | none => (scale? d.significand d.exponent).map (withSign negative)
  | some e =>
    match e.size? with
    | some n =>
      (scale? d.significand (if e.isDown then d.exponent - n else d.exponent + n)).map
        (withSign negative)
    | none =>
      if d.significand ≠ 0 ∧ ¬ e.isDown then none else some (withSign negative 0.0)

/-- The number of the digits before the point and of what follows them. Digits that the significand
takes are a whole number if nothing follows. -/
def Digits.number? (negative : Bool) (d : Digits) (fraction : Option (List Char))
    (exponent : Option Exponent) : Option Number :=
  if d.exponent = 0 ∧ fraction = none ∧ exponent = none then
    some (wholeNumber negative d.significand)
  else
    ((d.addFraction (fraction.getD [])).scaled? negative exponent).map .double

/-- The number that a literal stands for; none if it is too large for a double. -/
def Literal.number? (l : Literal) : Option Number :=
  (Digits.addWhole ⟨0, 0⟩ l.whole).number? l.negative l.fraction l.exponent

/-- A text that does not go on with a number before it. -/
def Stops (rest : List Char) : Prop :=
  ∀ c, rest.head? = some c → isDigit c = false ∧ c ≠ '.' ∧ c ≠ 'e' ∧ c ≠ 'E'

/-! ## 2. Digits -/

theorem isDigit_eq_isSome (c : Char) : isDigit c = (digit? c).isSome := rfl

theorem digit?_of_isDigit {c : Char} (h : isDigit c = true) : digit? c = some (digitValue c) := by
  obtain ⟨d, hd⟩ := Option.isSome_iff_exists.mp h
  rw [digitValue, hd]
  rfl

theorem digit?_eq_none {c : Char} (h : isDigit c = false) : digit? c = none :=
  Option.isNone_iff_eq_none.mp (Option.isSome_eq_false_iff.mp h)

theorem digitValue_eq {c : Char} (h : isDigit c = true) : digitValue c = c.toNat - '0'.toNat := by
  have hd := digit?_of_isDigit h
  unfold digit? at hd
  split at hd
  · exact (Option.some.inj hd).symm
  · injection hd

theorem digitValue_lt {c : Char} (h : isDigit c = true) : digitValue c < 10 := by
  have hd := digit?_of_isDigit h
  unfold digit? at hd
  split at hd
  · rename_i hc
    have hle : c.toNat ≤ '9'.toNat := hc.2
    rw [Option.some.injEq] at hd
    have : '9'.toNat = '0'.toNat + 9 := rfl
    omega
  · injection hd

theorem IsDigits.cons {cs : List Char} (h : IsDigits cs) :
    ∃ c tail, cs = c :: tail ∧ isDigit c = true ∧ ∀ d ∈ tail, isDigit d = true := by
  obtain ⟨c, tail, rfl⟩ := List.exists_cons_of_ne_nil h.1
  exact ⟨c, tail, rfl, h.2 c List.mem_cons_self, fun d hd => h.2 d (List.mem_cons_of_mem c hd)⟩

theorem takeDigits_append {ds rest : List Char} (hds : ∀ c ∈ ds, isDigit c = true)
    (hrest : ∀ c, rest.head? = some c → isDigit c = false) :
    (ds ++ rest).takeWhile isDigit = ds ∧ (ds ++ rest).dropWhile isDigit = rest := by
  rw [List.takeWhile_append_of_pos hds, List.dropWhile_append_of_pos hds]
  cases rest with
  | nil => simp
  | cons c rest =>
    have hc : ¬ isDigit c = true := by rw [hrest c rfl]; decide
    rw [List.takeWhile_cons_of_neg hc, List.dropWhile_cons_of_neg hc, List.append_nil]
    exact ⟨rfl, rfl⟩

theorem Stops.not_isDigit {rest : List Char} (h : Stops rest) :
    ∀ c, rest.head? = some c → isDigit c = false :=
  fun c hc => (h c hc).1

/-! ## 3. Exponents -/

theorem natOf_foldl_le (acc : Nat) (ds : List Char) :
    acc ≤ ds.foldl (fun acc c => acc * 10 + (digit? c).getD 0) acc := by
  induction ds generalizing acc with
  | nil => exact Nat.le_refl acc
  | cons c ds ih => exact Nat.le_trans (by omega) (ih (acc * 10 + (digit? c).getD 0))

-- Where the reader of an exponent stops within its digits, only digits are left of it.
theorem gatherExponent_append {acc : Nat} {ds rest : List Char}
    (hds : ∀ c ∈ ds, isDigit c = true) (hrest : ∀ c, rest.head? = some c → isDigit c = false)
    (hacc : acc < 0x80000000) :
    let n := ds.foldl (fun acc c => acc * 10 + (digit? c).getD 0) acc
    (n < 0x80000000 → gatherExponent acc (ds ++ rest) = (some n, rest)) ∧
    (¬ n < 0x80000000 → ∃ left, gatherExponent acc (ds ++ rest) = (none, left) ∧
      left.dropWhile isDigit = rest) := by
  induction ds generalizing acc with
  | nil =>
    refine ⟨fun _ => ?_, fun h => absurd hacc h⟩
    rw [List.nil_append]
    cases rest with
    | nil => rfl
    | cons c rest => simp only [gatherExponent, digit?_eq_none (hrest c rfl), List.foldl_nil]
  | cons c ds ih =>
    have hc := digit?_of_isDigit (hds c List.mem_cons_self)
    have htail : ∀ d ∈ ds, isDigit d = true := fun d hd => hds d (List.mem_cons_of_mem c hd)
    intro n
    rw [List.cons_append]
    simp only [gatherExponent, hc]
    have hn : n = ds.foldl (fun acc c => acc * 10 + (digit? c).getD 0)
        (acc * 10 + digitValue c) := rfl
    by_cases hnext : acc * 10 + digitValue c < 0x80000000
    · rw [if_pos hnext, hn]
      exact ih htail hnext
    · have hle := natOf_foldl_le (acc * 10 + digitValue c) ds
      rw [if_neg hnext]
      refine ⟨fun h => ?_, fun _ => ⟨_, rfl, (takeDigits_append htail hrest).2⟩⟩
      omega

theorem exponentSign_append (e : Exponent) (rest : List Char) :
    exponentSign (e.sign.toList ++ (e.digits ++ rest)) = (e.isDown, e.digits ++ rest) := by
  obtain ⟨c, tail, hdigits, hc, -⟩ := e.isDigits.cons
  unfold Exponent.isDown
  rcases hsign : e.sign with _ | s
  · -- a digit is no sign
    rw [hdigits]
    show exponentSign (c :: (tail ++ rest)) = (false, c :: (tail ++ rest))
    rw [exponentSign]
    · rintro cs ⟨rfl, -⟩
      exact absurd hc (by decide)
    · rintro cs ⟨rfl, -⟩
      exact absurd hc (by decide)
  · rcases e.sign_mem s (by rw [hsign]; rfl) with rfl | rfl <;> rfl

theorem finish_toOption (negative : Bool) (d : Digits) (rest : List Char) :
    (d.finish negative rest).toOption =
      ((scale? d.significand d.exponent).map (withSign negative)).map fun x => (x, rest) := by
  unfold Digits.finish
  cases scale? d.significand d.exponent <;> rfl

theorem readExponent_append (negative : Bool) (d : Digits) (e : Exponent) {rest : List Char}
    (hrest : ∀ c, rest.head? = some c → isDigit c = false) :
    (readExponent negative d (e.sign.toList ++ (e.digits ++ rest))).toOption =
      (d.scaled? negative (some e)).map fun x => (x, rest) := by
  obtain ⟨c, tail, hdigits, hc, htail⟩ := e.isDigits.cons
  have hsign : exponentSign (e.sign.toList ++ (e.digits ++ rest)) =
      (e.isDown, c :: (tail ++ rest)) := by
    rw [exponentSign_append, hdigits, List.cons_append]
  have hdigit := digit?_of_isDigit hc
  have hsmall : digitValue c < 0x80000000 := Nat.lt_trans (digitValue_lt hc) (by decide)
  obtain ⟨hfits, hlarge⟩ := gatherExponent_append htail hrest hsmall
  have hsize : natOf e.digits =
      tail.foldl (fun acc c => acc * 10 + (digit? c).getD 0) (digitValue c) := by
    rw [natOf, hdigits, List.foldl_cons, Nat.zero_mul, Nat.zero_add]
    rfl
  rw [← hsize] at hfits hlarge
  simp only [Digits.scaled?, Exponent.size?]
  by_cases h : natOf e.digits < 0x80000000
  · rw [readExponent_of_some hsign hdigit (hfits h), finish_toOption, if_pos h]
  · obtain ⟨left, hgather, hleft⟩ := hlarge h
    rw [if_neg h]
    by_cases hbig : d.significand ≠ 0 ∧ ¬ e.isDown
    · simp only [readExponent, hsign, hdigit, hgather]
      rw [if_pos hbig, if_pos hbig]
      rfl
    · rw [readExponent_of_none hsign hdigit hgather hbig, if_neg hbig, hleft]
      rfl

theorem readExponentIfAny_append (negative : Bool) (d : Digits) (e : Option Exponent)
    {rest : List Char} (hrest : Stops rest) :
    (readExponentIfAny negative d (exponentText e ++ rest)).toOption =
      (d.scaled? negative e).map fun x => (x, rest) := by
  cases e with
  | none =>
    have hplain : readExponentIfAny negative d rest = d.finish negative rest := by
      rw [readExponentIfAny]
      · rintro cs rfl
        exact (hrest 'e' rfl).2.2.1 rfl
      · rintro cs rfl
        exact (hrest 'E' rfl).2.2.2 rfl
    rw [exponentText, List.nil_append, hplain, finish_toOption]
    rfl
  | some e =>
    have hread := readExponent_append negative d e hrest.not_isDigit
    rw [exponentText, Exponent.text, List.cons_append, List.append_assoc]
    rcases e.letter_mem with h | h
    · rw [h]
      exact hread
    · rw [h]
      exact hread

/-! ## 4. Fractions -/

theorem gatherFraction_append (d : Digits) {ds rest : List Char}
    (hds : ∀ c ∈ ds, isDigit c = true) (hrest : ∀ c, rest.head? = some c → isDigit c = false) :
    gatherFraction d (ds ++ rest) = (d.addFraction ds, rest) := by
  induction ds generalizing d with
  | nil =>
    rw [List.nil_append, Digits.addFraction]
    cases rest with
    | nil => rfl
    | cons c rest => simp only [gatherFraction, digit?_eq_none (hrest c rfl)]
  | cons c ds ih =>
    have hc := digit?_of_isDigit (hds c List.mem_cons_self)
    have htail : ∀ d ∈ ds, isDigit d = true := fun d hd => hds d (List.mem_cons_of_mem c hd)
    rw [List.cons_append]
    simp only [gatherFraction, hc, Digits.addFraction]
    by_cases hfull : d.isFull (digitValue c) = true
    · rw [if_pos hfull, if_pos hfull, (takeDigits_append htail hrest).2]
    · rw [if_neg hfull, if_neg hfull, ih _ htail]

-- What may follow digits: no digit, whatever part of a literal comes next.
theorem not_isDigit_exponentText (e : Option Exponent) {rest : List Char} (hrest : Stops rest) :
    ∀ c, (exponentText e ++ rest).head? = some c → isDigit c = false := by
  cases e with
  | none => exact hrest.not_isDigit
  | some e =>
    intro c hc
    obtain rfl := Option.some.inj hc
    rcases e.letter_mem with h | h
    · rw [h]
      decide
    · rw [h]
      decide

theorem not_isDigit_fractionText (fraction : Option (List Char)) (e : Option Exponent)
    {rest : List Char} (hrest : Stops rest) :
    ∀ c, (fractionText fraction ++ (exponentText e ++ rest)).head? = some c →
      isDigit c = false := by
  cases fraction with
  | none => exact not_isDigit_exponentText e hrest
  | some ds =>
    intro c hc
    obtain rfl := Option.some.inj hc
    decide

theorem ne_point_exponentText (e : Option Exponent) {rest : List Char} (hrest : Stops rest) :
    (exponentText e ++ rest).head? ≠ some '.' := by
  intro h
  cases e with
  | none => exact (hrest '.' h).2.1 rfl
  | some e =>
    have hletter : e.letter = '.' := Option.some.inj h
    rcases e.letter_mem with h | h
    · exact absurd (h.symm.trans hletter) (by decide)
    · exact absurd (h.symm.trans hletter) (by decide)

theorem readDoubleTail_append (negative : Bool) (d : Digits) {fraction : Option (List Char)}
    (hfraction : ∀ ds ∈ fraction, IsDigits ds) (e : Option Exponent) {rest : List Char}
    (hrest : Stops rest) :
    (readDoubleTail negative d (fractionText fraction ++ (exponentText e ++ rest))).toOption =
      ((d.addFraction (fraction.getD [])).scaled? negative e).map fun x => (x, rest) := by
  cases fraction with
  | none =>
    rw [fractionText, List.nil_append, readDoubleTail_of_head (ne_point_exponentText e hrest),
      readExponentIfAny_append negative d e hrest]
    rfl
  | some ds =>
    obtain ⟨c, tail, rfl, hc, -⟩ := (hfraction ds rfl).cons
    have hgather := gatherFraction_append d (hfraction _ rfl).2 (not_isDigit_exponentText e hrest)
    rw [List.cons_append] at hgather
    rw [fractionText, List.cons_append, readDoubleTail, List.cons_append,
      readFraction_of_digit hc hgather, readExponentIfAny_append negative _ e hrest]
    rfl

/-! ## 5. Numbers -/

theorem map_toOption {α β : Type} {f : α → β} {x : Reading α} {y : Option α} {rest : List Char}
    (h : x.toOption = y.map fun a => (a, rest)) :
    (x.map fun (a, after) => (f a, after)).toOption = y.map fun a => (f a, rest) := by
  rcases x with e | ⟨a, after⟩
  · cases y with
    | none => rfl
    | some b => injection h
  · cases y with
    | none => injection h
    | some b =>
      obtain ⟨rfl, rfl⟩ := Prod.mk.inj (Option.some.inj h)
      rfl

theorem goesOn_text (fraction : Option (List Char)) (e : Option Exponent) {rest : List Char}
    (hrest : Stops rest) :
    goesOn (fractionText fraction ++ (exponentText e ++ rest)) =
      !(fraction.isNone && e.isNone) := by
  cases fraction with
  | some ds => rfl
  | none =>
    cases e with
    | some e =>
      rw [fractionText, List.nil_append, exponentText, Exponent.text, List.cons_append]
      rcases e.letter_mem with h | h <;> rw [h] <;> rfl
    | none =>
      rw [fractionText, exponentText, List.nil_append, List.nil_append]
      unfold goesOn
      split
      · exact absurd rfl (hrest '.' rfl).2.1
      · exact absurd rfl (hrest 'e' rfl).2.2.1
      · exact absurd rfl (hrest 'E' rfl).2.2.2
      · rfl

theorem readNumberTail_append (negative : Bool) (significand : Nat)
    {fraction : Option (List Char)} (hfraction : ∀ ds ∈ fraction, IsDigits ds)
    (e : Option Exponent) {rest : List Char} (hrest : Stops rest) :
    (readNumberTail negative significand
        (fractionText fraction ++ (exponentText e ++ rest))).toOption =
      (Digits.number? negative ⟨significand, 0⟩ fraction e).map fun n => (n, rest) := by
  have hgo := goesOn_text fraction e hrest
  unfold Digits.number?
  by_cases hplain : fraction = none ∧ e = none
  · obtain ⟨rfl, rfl⟩ := hplain
    rw [readNumberTail_of_not_goesOn hgo, if_pos ⟨rfl, rfl, rfl⟩]
    rfl
  · have htrue : goesOn (fractionText fraction ++ (exponentText e ++ rest)) = true := by
      rw [hgo]
      cases fraction <;> cases e <;> simp_all
    rw [readNumberTail_of_goesOn htrue, if_neg fun h => hplain h.2,
      map_toOption (readDoubleTail_append negative _ hfraction e hrest), Option.map_map]
    rfl

theorem readDigits_append (negative : Bool) (significand : Nat) {ds : List Char}
    (hds : ∀ c ∈ ds, isDigit c = true) {fraction : Option (List Char)}
    (hfraction : ∀ ds ∈ fraction, IsDigits ds) (e : Option Exponent) {rest : List Char}
    (hrest : Stops rest) :
    (readDigits negative significand
        (ds ++ (fractionText fraction ++ (exponentText e ++ rest)))).toOption =
      ((Digits.addWhole ⟨significand, 0⟩ ds).number? negative fraction e).map fun n =>
        (n, rest) := by
  have hstop := not_isDigit_fractionText fraction e hrest
  induction ds generalizing significand with
  | nil =>
    rw [List.nil_append, Digits.addWhole, ← readNumberTail_append negative _ hfraction e hrest]
    generalize fractionText fraction ++ (exponentText e ++ rest) = tail at hstop ⊢
    cases tail with
    | nil => rfl
    | cons c tail => simp only [readDigits, digit?_eq_none (hstop c rfl)]
  | cons c ds ih =>
    have hc := digit?_of_isDigit (hds c List.mem_cons_self)
    have htail : ∀ d ∈ ds, isDigit d = true := fun d hd => hds d (List.mem_cons_of_mem c hd)
    rw [List.cons_append]
    simp only [readDigits, hc, Digits.addWhole]
    by_cases hfull : Digits.isFull ⟨significand, 0⟩ (digitValue c) = true
    · obtain ⟨htake, hdrop⟩ := takeDigits_append hds hstop
      rw [List.cons_append] at htake hdrop
      rw [if_pos hfull, if_pos hfull, htake, hdrop,
        map_toOption (readDoubleTail_append negative _ hfraction e hrest), Digits.number?,
        if_neg (by simp only; omega), Option.map_map]
      simp only [List.length_cons, Int.natCast_add, Int.natCast_one, Int.zero_add]
      rfl
    · rw [if_neg hfull, if_neg hfull, ih _ htail]

theorem Literal.ne_minus (l : Literal) (rest : List Char) :
    (l.magnitude ++ rest).head? ≠ some '-' := by
  obtain ⟨c, tail, hwhole, hc, -⟩ := l.whole_isDigits.cons
  unfold magnitude
  rw [hwhole]
  intro h
  obtain rfl := Option.some.inj h
  exact absurd hc (by decide)

/-- A literal at the front of a text is read to its end, as the number that it stands for. -/
theorem readNumber_literal (l : Literal) {rest : List Char} (hrest : Stops rest) :
    (readNumber (l.text ++ rest)).toOption = l.number?.map fun n => (n, rest) := by
  obtain ⟨c, tail, hwhole, hc, htail⟩ := l.whole_isDigits.cons
  have hmagnitude : (readMagnitude l.negative (l.magnitude ++ rest)).toOption =
      l.number?.map fun n => (n, rest) := by
    unfold Literal.magnitude Literal.number?
    rw [List.append_assoc, List.append_assoc]
    by_cases hzero : c = '0'
    · subst hzero
      have hone : l.whole = ['0'] := l.whole_zero (by rw [hwhole]; rfl)
      rw [hone, List.singleton_append,
        readMagnitude_zero (not_isDigit_fractionText l.fraction l.exponent hrest),
        readNumberTail_append l.negative 0 l.fraction_isDigits l.exponent hrest]
      rfl
    · have hfirst : Digits.addWhole ⟨0, 0⟩ (c :: tail) =
          Digits.addWhole ⟨digitValue c, 0⟩ tail := by
        have hlt := digitValue_lt hc
        have hfits : ¬ Digits.isFull ⟨0, 0⟩ (digitValue c) = true := by
          simp only [Digits.isFull, decide_eq_true_eq, UInt64.size]
          omega
        rw [Digits.addWhole, if_neg hfits, Nat.zero_mul, Nat.zero_add]
      rw [hwhole, List.cons_append, hfirst,
        ← readDigits_append l.negative _ htail l.fraction_isDigits l.exponent hrest]
      simp [readMagnitude, digit?_of_isDigit hc]
  unfold Literal.text
  cases hsign : l.negative with
  | true =>
    rw [if_pos rfl, List.cons_append, readNumber, ← hsign, hmagnitude]
  | false =>
    rw [if_neg (by decide), readNumber_of_head (l.ne_minus rest), ← hsign, hmagnitude]

/-! ## 6. Literals that are skipped -/

theorem skipExponentIfAny_append (e : Option Exponent) {rest : List Char} (hrest : Stops rest) :
    skipExponentIfAny (exponentText e ++ rest) = .ok rest := by
  cases e with
  | none =>
    rw [exponentText, List.nil_append, skipExponentIfAny]
    · rintro cs rfl
      exact (hrest 'e' rfl).2.2.1 rfl
    · rintro cs rfl
      exact (hrest 'E' rfl).2.2.2 rfl
  | some e =>
    obtain ⟨c, tail, hdigits, hc, htail⟩ := e.isDigits.cons
    have hsign : exponentSign (e.sign.toList ++ (e.digits ++ rest)) =
        (e.isDown, c :: (tail ++ rest)) := by
      rw [exponentSign_append, hdigits, List.cons_append]
    have hskip : skipExponent (e.sign.toList ++ (e.digits ++ rest)) = .ok rest := by
      rw [skipExponent_of_digit hsign hc, (takeDigits_append htail hrest.not_isDigit).2]
    rw [exponentText, Exponent.text, List.cons_append, List.append_assoc]
    rcases e.letter_mem with h | h
    · rw [h]
      exact hskip
    · rw [h]
      exact hskip

theorem skipNumberTail_append {fraction : Option (List Char)}
    (hfraction : ∀ ds ∈ fraction, IsDigits ds) (e : Option Exponent) {rest : List Char}
    (hrest : Stops rest) :
    skipNumberTail (fractionText fraction ++ (exponentText e ++ rest)) = .ok rest := by
  cases fraction with
  | none =>
    rw [fractionText, List.nil_append, skipNumberTail_of_head (ne_point_exponentText e hrest),
      skipExponentIfAny_append e hrest]
  | some ds =>
    obtain ⟨c, tail, rfl, hc, htail⟩ := (hfraction ds rfl).cons
    have hdrop := (takeDigits_append htail (not_isDigit_exponentText e hrest)).2
    rw [fractionText, List.cons_append, List.cons_append]
    simp only [skipNumberTail, hc, if_true, hdrop]
    exact skipExponentIfAny_append e hrest

/-- A literal that is skipped is skipped to its end, whatever its size. -/
theorem skipNumber_literal (l : Literal) {rest : List Char} (hrest : Stops rest) :
    skipNumber (l.text ++ rest) = .ok rest := by
  obtain ⟨c, tail, hwhole, hc, htail⟩ := l.whole_isDigits.cons
  have hstop := not_isDigit_fractionText l.fraction l.exponent hrest
  have hmagnitude : skipMagnitude (l.magnitude ++ rest) = .ok rest := by
    unfold Literal.magnitude
    rw [List.append_assoc, List.append_assoc]
    by_cases hzero : c = '0'
    · subst hzero
      have hone : l.whole = ['0'] := l.whole_zero (by rw [hwhole]; rfl)
      rw [hone, List.singleton_append, skipMagnitude_zero hstop,
        skipNumberTail_append l.fraction_isDigits l.exponent hrest]
    · have hdrop := (takeDigits_append htail hstop).2
      rw [hwhole, List.cons_append]
      simp [skipMagnitude, hc, hdrop, skipNumberTail_append l.fraction_isDigits l.exponent hrest]
  unfold Literal.text
  cases l.negative with
  | true => rw [if_pos rfl, List.cons_append, skipNumber, hmagnitude]
  | false => rw [if_neg (by decide), skipNumber_of_head (l.ne_minus rest), hmagnitude]

end LoanPricing.Json
