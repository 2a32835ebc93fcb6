import LoanPricing.Proofs.Json.Literals

/-!
# Values of literals — the double that a number literal stands for

A literal of digits alone whose number fits 64 bits stands for this number, rounded to a double. In
any other literal so many digits *count* as make up a number below 2^64, and the exponent stands in
for the others: it is raised by one for each digit before the point that does not count, and lowered
by one for each digit after the point that does. The number of the counted digits is rounded to a
double, and the double is multiplied or divided by the power of ten, itself rounded to a double.

None of this is about how a literal is read. The main statement is that gathering the digits one by
one comes to the same.
-/

namespace LoanPricing.Json

open Text (digit? isDigit natOf)

/-! ## 1. What a literal stands for -/

/-- The number that decimal digits spell. -/
def decimalValue (ds : List Char) : Nat :=
  Nat.ofDigitChars 10 ds 0

/-- Which digits of `ds` count behind those before them: the ones in front, as long as they make up
a number below 2^64. -/
structure Takes (before ds taken left : List Char) : Prop where
  append : ds = taken ++ left
  fits : decimalValue (before ++ taken) < UInt64.size
  full : ∀ c ∈ left.head?, UInt64.size ≤ decimalValue (before ++ taken ++ [c])

/-- A double divided by ten to the power of `n`. The powers of ten that are doubles end at
`10 ^ 308`; beyond it the double is divided by that one first, unless nothing is left of it. -/
inductive Divides : Float → Nat → Float → Prop
  | once {x : Float} {n : Nat} (h : n ≤ 308) : Divides x n (x / Float.ofScientific 1 false n)
  | further {x y : Float} {n : Nat} (h : 308 < n) (hx : (x == 0.0) = false)
      (hy : Divides (x / Float.ofScientific 1 false 308) (n - 308) y) : Divides x n y
  | nothing {x : Float} {n : Nat} (h : 308 < n) (hx : (x == 0.0) = true) : Divides x n x

/-- A double times ten to the power of an exponent, unless that is too large for a double. -/
inductive Scales (x : Float) : Int → Float → Prop
  | up {n : Nat} (h : n ≤ 308) (hfinite : (x * Float.ofScientific 1 false n).isInf = false) :
    Scales x n (x * Float.ofScientific 1 false n)
  | zero {n : Nat} (h : 308 < n) (hx : (x == 0.0) = true) : Scales x n x
  | down {n : Nat} {y : Float} (h : 0 < n) (hy : Divides x n y) : Scales x (-n) y

def Exponent.value (e : Exponent) : Int :=
  if e.sign = some '-' then -(decimalValue e.digits) else decimalValue e.digits

/-- The exponent that a literal has, zero if there is none in its text. -/
def exponentValue (e : Option Exponent) : Int :=
  e.elim 0 Exponent.value

namespace Literal

/-- A literal of digits alone whose number fits 64 bits. -/
structure IsPlain (l : Literal) : Prop where
  fraction : l.fraction = none
  exponent : l.exponent = none
  fits : decimalValue l.whole < UInt64.size

/-- A literal that spells a whole number. Zero has no sign. -/
structure IsWhole (l : Literal) (n : Int) : Prop extends l.IsPlain where
  value : n = if l.negative then -(decimalValue l.whole : Int) else decimalValue l.whole
  zero : n = 0 → l.negative = false

/-- The double that a literal without its sign stands for. -/
inductive HasMagnitude (l : Literal) : Float → Prop
  | whole (h : l.IsPlain) : HasMagnitude l (decimalValue l.whole).toUInt64.toFloat
  | scaled {first surplus second dropped : List Char} {x : Float} (h : ¬ l.IsPlain)
      (hwhole : Takes [] l.whole first surplus)
      (hfraction : Takes first (l.fraction.getD []) second dropped)
      (hexponent : (exponentValue l.exponent).natAbs < 0x80000000)
      (hx : Scales (decimalValue (first ++ second)).toUInt64.toFloat
        (surplus.length - second.length + exponentValue l.exponent) x) :
      HasMagnitude l x
  /-- An exponent of 2^31 or more leaves nothing of a number that it makes smaller, nor makes
  anything of zero. -/
  | vanishing (hexponent : 0x80000000 ≤ (exponentValue l.exponent).natAbs)
      (h : exponentValue l.exponent < 0 ∨ decimalValue (l.whole ++ l.fraction.getD []) = 0) :
      HasMagnitude l 0.0

/-- The double that a literal stands for. One that is too large for a double stands for none. -/
def StandsFor (l : Literal) (x : Float) : Prop :=
  ∃ y, l.HasMagnitude y ∧ x = if l.negative then -y else y

end Literal

/-! ## 2. Digits that count -/

theorem decimalValue_concat (before : List Char) {c : Char} (hc : isDigit c = true) :
    decimalValue (before ++ [c]) = decimalValue before * 10 + digitValue c := by
  rw [decimalValue, Nat.ofDigitChars_append, Nat.ofDigitChars_cons, Nat.ofDigitChars_nil,
    digitValue_eq hc, Nat.mul_comm]
  rfl

theorem decimalValue_le_append (ds es : List Char) :
    decimalValue ds ≤ decimalValue (ds ++ es) := by
  rw [decimalValue, decimalValue, Nat.ofDigitChars_append,
    @Nat.ofDigitChars_eq_ofDigitChars_zero es]
  have hpos : 0 < 10 ^ es.length := Nat.pow_pos (by decide)
  exact Nat.le_trans (Nat.le_mul_of_pos_left _ hpos) (Nat.le_add_right _ _)

theorem isFull_iff (before : List Char) (exponent : Int) {c : Char} (hc : isDigit c = true) :
    Digits.isFull ⟨decimalValue before, exponent⟩ (digitValue c) = true ↔
      UInt64.size ≤ decimalValue (before ++ [c]) := by
  rw [decimalValue_concat before hc, Digits.isFull, decide_eq_true_eq]

theorem exists_takes {before : List Char} (ds : List Char)
    (h : decimalValue before < UInt64.size) : ∃ taken left, Takes before ds taken left := by
  induction ds generalizing before with
  | nil => exact ⟨[], [], rfl, by rwa [List.append_nil], fun _ hc => absurd hc (by simp)⟩
  | cons c ds ih =>
    by_cases hfits : decimalValue (before ++ [c]) < UInt64.size
    · obtain ⟨taken, left, rfl, htaken, hfull⟩ := ih hfits
      refine ⟨c :: taken, left, rfl, ?_, ?_⟩
      · rwa [List.append_cons]
      · rwa [List.append_cons]
    · refine ⟨[], c :: ds, rfl, by rwa [List.append_nil], fun d hd => ?_⟩
      obtain rfl := Option.some.inj hd
      rw [List.append_nil]
      exact Nat.not_lt.mp hfits

namespace Takes

variable {before ds taken left : List Char} {c : Char}

/-- The first of the digits counts. -/
theorem next (h : Takes before (c :: ds) (c :: taken) left) :
    decimalValue (before ++ [c]) < UInt64.size ∧ Takes (before ++ [c]) ds taken left := by
  obtain ⟨happend, hfits, hfull⟩ := h
  rw [List.append_cons] at hfits hfull
  exact ⟨Nat.lt_of_le_of_lt (decimalValue_le_append _ taken) hfits,
    (List.cons.inj happend).2, hfits, hfull⟩

/-- None of the digits counts. -/
theorem full_nil (h : Takes before ds [] (c :: left)) :
    ds = c :: left ∧ UInt64.size ≤ decimalValue (before ++ [c]) := by
  obtain ⟨happend, -, hfull⟩ := h
  rw [List.append_nil] at hfull
  exact ⟨happend, hfull c rfl⟩

/-- The digits before the point that count are gathered, and the others are counted. -/
theorem addWhole (h : Takes before ds taken left) (hds : ∀ c ∈ ds, isDigit c = true) :
    Digits.addWhole ⟨decimalValue before, 0⟩ ds =
      ⟨decimalValue (before ++ taken), left.length⟩ := by
  induction taken generalizing before ds with
  | nil =>
    rw [List.append_nil]
    cases left with
    | nil =>
      obtain rfl : ds = [] := h.append
      rfl
    | cons c left =>
      obtain ⟨rfl, hfull⟩ := h.full_nil
      rw [Digits.addWhole, if_pos ((isFull_iff before 0 (hds c List.mem_cons_self)).mpr hfull),
        Int.zero_add, List.length_cons, Int.natCast_add, Int.natCast_one]
  | cons c taken ih =>
    obtain rfl := h.append
    rw [List.cons_append] at h hds ⊢
    obtain ⟨hfits, hnext⟩ := h.next
    obtain ⟨hc, htail⟩ := List.forall_mem_cons.mp hds
    have hroom := (not_congr (isFull_iff before 0 hc)).mpr (Nat.not_le.mpr hfits)
    rw [Digits.addWhole, if_neg hroom, ← decimalValue_concat before hc, ih hnext htail,
      List.append_assoc, List.singleton_append]

/-- The digits after the point that count are gathered, and the others are dropped. -/
theorem addFraction (h : Takes before ds taken left) (hds : ∀ c ∈ ds, isDigit c = true)
    (exponent : Int) :
    Digits.addFraction ⟨decimalValue before, exponent⟩ ds =
      ⟨decimalValue (before ++ taken), exponent - taken.length⟩ := by
  induction taken generalizing before ds exponent with
  | nil =>
    rw [List.append_nil, List.length_nil, Int.natCast_zero, Int.sub_zero]
    cases left with
    | nil =>
      obtain rfl : ds = [] := h.append
      rfl
    | cons c left =>
      obtain ⟨rfl, hfull⟩ := h.full_nil
      rw [Digits.addFraction,
        if_pos ((isFull_iff before exponent (hds c List.mem_cons_self)).mpr hfull)]
  | cons c taken ih =>
    obtain rfl := h.append
    rw [List.cons_append] at h hds ⊢
    obtain ⟨hfits, hnext⟩ := h.next
    obtain ⟨hc, htail⟩ := List.forall_mem_cons.mp hds
    have hroom := (not_congr (isFull_iff before exponent hc)).mpr (Nat.not_le.mpr hfits)
    rw [Digits.addFraction, if_neg hroom, ← decimalValue_concat before hc, ih hnext htail,
      List.append_assoc, List.singleton_append]
    have hlength : exponent - 1 - taken.length = exponent - (c :: taken).length := by
      rw [List.length_cons]
      omega
    exact congrArg (Digits.mk _) hlength

/-- All digits count if and only if the number of them all fits. -/
theorem left_eq_nil_iff (h : Takes before ds taken left) :
    left = [] ↔ decimalValue (before ++ ds) < UInt64.size := by
  obtain ⟨rfl, hfits, hfull⟩ := h
  constructor
  · rintro rfl
    rwa [List.append_nil]
  · intro hall
    cases left with
    | nil => rfl
    | cons c left =>
      rw [← List.append_assoc, List.append_cons] at hall
      have hle := decimalValue_le_append (before ++ taken ++ [c]) left
      exact absurd (Nat.le_trans (hfull c rfl) hle) (Nat.not_le.mpr hall)

/-- As long as the digits that count are zeros, the next one counts too. -/
theorem left_eq_nil_of_eq_zero (h : Takes before ds taken left) (hds : ∀ c ∈ ds, isDigit c = true)
    (hzero : decimalValue (before ++ taken) = 0) : left = [] := by
  obtain ⟨rfl, -, hfull⟩ := h
  cases left with
  | nil => rfl
  | cons c left =>
    have hc : isDigit c = true := hds c (List.mem_append_right _ List.mem_cons_self)
    have hsmall := digitValue_lt hc
    have hlarge := hfull c rfl
    rw [decimalValue_concat _ hc, hzero, Nat.zero_mul, Nat.zero_add, UInt64.size] at hlarge
    omega

end Takes

/-! ## 3. Scaling -/

theorem divides_iff {x y : Float} {n : Nat} : Divides x n y ↔ divideByPower x n = y := by
  constructor
  · intro h
    induction h with
    | once hle =>
      rw [divideByPower, tableEnd, if_pos hle]
      rfl
    | further hlt hx _ ih =>
      rw [divideByPower, tableEnd, if_neg (Nat.not_le.mpr hlt), if_neg (Bool.eq_false_iff.mp hx)]
      exact ih
    | nothing hlt hx => rw [divideByPower, tableEnd, if_neg (Nat.not_le.mpr hlt), if_pos hx]
  · rintro rfl
    fun_induction divideByPower x n with
    | case1 x n hle => exact .once hle
    | case2 x n hle hx => exact .nothing (Nat.not_le.mp hle) hx
    | case3 x n hle hx ih => exact .further (Nat.not_le.mp hle) (Bool.eq_false_iff.mpr hx) ih

theorem scales_iff {significand : Nat} {exponent : Int} {y : Float} :
    Scales significand.toUInt64.toFloat exponent y ↔ scale? significand exponent = some y := by
  constructor
  · intro h
    cases h with
    | @up n hle hfinite =>
      have hnonneg : ¬ (n : Int) < 0 := by omega
      simp only [scale?, if_neg hnonneg, Int.natAbs_natCast, tableEnd, if_pos hle]
      exact if_neg (Bool.eq_false_iff.mp hfinite)
    | @zero n hlt hx =>
      have hnonneg : ¬ (n : Int) < 0 := by omega
      simp only [scale?, if_neg hnonneg, Int.natAbs_natCast, tableEnd, if_neg (Nat.not_le.mpr hlt)]
      exact if_pos hx
    | @down n y hpos hy =>
      have hneg : -(n : Int) < 0 := by omega
      simp only [scale?, if_pos hneg, Int.natAbs_neg, Int.natAbs_natCast]
      exact congrArg some (divides_iff.mp hy)
  · intro h
    unfold scale? at h
    simp only at h
    split at h
    · rename_i hneg
      have hexponent : exponent = -(exponent.natAbs : Int) := by omega
      rw [hexponent]
      exact .down (by omega) (divides_iff.mpr (Option.some.inj h))
    rename_i hnonneg
    have hexponent : exponent = (exponent.natAbs : Int) := by omega
    rw [hexponent]
    split at h
    · rename_i hle
      split at h
      · injection h
      · rename_i hfinite
        rw [← Option.some.inj h]
        exact .up hle (Bool.eq_false_iff.mpr hfinite)
    rename_i hle
    split at h
    · rename_i hx
      rw [← Option.some.inj h]
      exact .zero (Nat.not_le.mp hle) hx
    · injection h

/-! ## 4. Exponents -/

theorem natOf_eq_decimalValue {ds : List Char} (hds : ∀ c ∈ ds, isDigit c = true) :
    natOf ds = decimalValue ds := by
  have hfold : ∀ acc, ds.foldl (fun acc c => acc * 10 + (digit? c).getD 0) acc =
      Nat.ofDigitChars 10 ds acc := by
    induction ds with
    | nil => exact fun acc => rfl
    | cons c ds ih =>
      intro acc
      obtain ⟨hc, hds⟩ := List.forall_mem_cons.mp hds
      rw [List.foldl_cons, ih hds, Nat.ofDigitChars_cons, ← digitValue_eq hc, Nat.mul_comm]
      rfl
  exact hfold 0

theorem Exponent.size?_eq (e : Exponent) :
    e.size? = if e.value.natAbs < 0x80000000 then some e.value.natAbs else none := by
  have habs : natOf e.digits = e.value.natAbs := by
    rw [natOf_eq_decimalValue e.isDigits.2, value]
    split <;> omega
  rw [size?, habs]

theorem Exponent.value_of_isDown {e : Exponent} (h : e.isDown = true) :
    e.value = -(e.value.natAbs : Int) := by
  have hsign : e.sign = some '-' := beq_iff_eq.mp h
  rw [value, if_pos hsign]
  omega

theorem Exponent.value_of_not_isDown {e : Exponent} (h : ¬ e.isDown = true) :
    e.value = (e.value.natAbs : Int) := by
  have hsign : ¬ e.sign = some '-' := fun hsign => h (beq_iff_eq.mpr hsign)
  rw [value, if_neg hsign]
  omega

theorem Exponent.value_neg_iff {e : Exponent} (h : 0 < e.value.natAbs) :
    e.value < 0 ↔ e.isDown = true := by
  by_cases hdown : e.isDown = true
  · have := value_of_isDown hdown
    exact iff_of_true (by omega) hdown
  · have := value_of_not_isDown hdown
    exact iff_of_false (by omega) hdown

/-- What scaling gathered digits comes to, by the exponent of the literal. -/
theorem scaled?_eq_some_iff {negative : Bool} {d : Digits} {e : Option Exponent} {x : Float} :
    d.scaled? negative e = some x ↔
      ∃ y, ((exponentValue e).natAbs < 0x80000000 ∧
          Scales d.significand.toUInt64.toFloat (d.exponent + exponentValue e) y ∨
        0x80000000 ≤ (exponentValue e).natAbs ∧ (exponentValue e < 0 ∨ d.significand = 0) ∧
          y = 0.0) ∧ x = withSign negative y := by
  cases e with
  | none =>
    have hzero : (exponentValue none).natAbs < 0x80000000 := by decide
    have hsum : d.exponent + exponentValue none = d.exponent := Int.add_zero _
    simp only [Digits.scaled?, Option.map_eq_some_iff, hzero, hsum, scales_iff, true_and,
      Nat.not_le.mpr hzero, false_and, or_false, @eq_comm _ _ x]
  | some e =>
    have hvalue : exponentValue (some e) = e.value := rfl
    rw [hvalue, Digits.scaled?, e.size?_eq]
    by_cases hsmall : e.value.natAbs < 0x80000000
    · have hsum : (if e.isDown then d.exponent - e.value.natAbs else d.exponent + e.value.natAbs) =
          d.exponent + e.value := by
        split
        · rename_i hdown
          have := Exponent.value_of_isDown hdown
          omega
        · rename_i hdown
          have := Exponent.value_of_not_isDown hdown
          omega
      simp only [hsmall, if_true, hsum, Option.map_eq_some_iff, scales_iff, true_and,
        Nat.not_le.mpr hsmall, false_and, or_false, @eq_comm _ _ x]
    · have hneg := Exponent.value_neg_iff (e := e) (by omega)
      simp only [hsmall, if_false, false_and, false_or, Nat.not_lt.mp hsmall, true_and, hneg]
      by_cases hbig : d.significand ≠ 0 ∧ ¬ e.isDown = true
      · rw [if_pos hbig]
        constructor
        · intro h
          injection h
        · rintro ⟨y, ⟨hdown | hzero, -⟩, -⟩
          · exact absurd hdown hbig.2
          · exact absurd hzero hbig.1
      · rw [if_neg hbig]
        have hsettled : e.isDown = true ∨ d.significand = 0 := by
          by_cases hdown : e.isDown = true
          · exact .inl hdown
          · exact .inr (Classical.not_not.mp fun hzero => hbig ⟨hzero, hdown⟩)
        constructor
        · exact fun h => ⟨0.0, ⟨hsettled, rfl⟩, (Option.some.inj h).symm⟩
        · rintro ⟨y, ⟨-, rfl⟩, rfl⟩
          rfl

/-! ## 5. Literals -/

theorem toFloat_wholeNumber (negative : Bool) (significand : Nat) :
    (wholeNumber negative significand).toFloat =
      withSign negative (significandToFloat significand) := by
  cases negative with
  | false =>
    have hnonneg : ¬ (significand : Int) < 0 := by omega
    simp only [wholeNumber, Number.toFloat, withSign, Bool.false_eq_true, not_false_eq_true,
      if_true, if_neg hnonneg, Int.natAbs_natCast, if_false]
  | true =>
    simp only [wholeNumber, withSign, not_true_eq_false, if_false, if_true]
    split
    · rename_i hrange
      have hneg : -(significand : Int) < 0 := by omega
      simp only [Number.toFloat, if_pos hneg, Int.natAbs_neg, Int.natAbs_natCast]
    · rfl

namespace Literal

variable {l : Literal}

theorem exists_takes_parts (l : Literal) : ∃ first surplus second dropped,
    Takes [] l.whole first surplus ∧ Takes first (l.fraction.getD []) second dropped := by
  obtain ⟨first, surplus, hwhole⟩ := @exists_takes [] l.whole (by decide)
  obtain ⟨second, dropped, hfraction⟩ := exists_takes (l.fraction.getD []) hwhole.fits
  exact ⟨first, surplus, second, dropped, hwhole, hfraction⟩

theorem isDigit_fraction (l : Literal) : ∀ c ∈ l.fraction.getD [], isDigit c = true := by
  cases h : l.fraction with
  | none => exact fun c hc => absurd hc List.not_mem_nil
  | some ds => exact (l.fraction_isDigits ds h).2

theorem number?_of_isPlain (h : l.IsPlain) :
    l.number? = some (wholeNumber l.negative (decimalValue l.whole)) := by
  obtain ⟨first, surplus, hwhole⟩ := @exists_takes [] l.whole (by decide)
  obtain rfl : surplus = [] := hwhole.left_eq_nil_iff.mpr h.fits
  have hall : l.whole = first := hwhole.append.trans (List.append_nil first)
  have hdigits : Digits.addWhole ⟨0, 0⟩ l.whole = ⟨decimalValue first, 0⟩ :=
    hwhole.addWhole l.whole_isDigits.2
  rw [number?, hdigits, Digits.number?, if_pos ⟨rfl, h.fraction, h.exponent⟩, hall]

theorem number?_of_not_isPlain (h : ¬ l.IsPlain) {first surplus second dropped : List Char}
    (hwhole : Takes [] l.whole first surplus)
    (hfraction : Takes first (l.fraction.getD []) second dropped) :
    l.number? =
      (Digits.scaled? l.negative
        ⟨decimalValue (first ++ second), surplus.length - second.length⟩ l.exponent).map .double := by
  have hdigits : Digits.addWhole ⟨0, 0⟩ l.whole = ⟨decimalValue first, surplus.length⟩ :=
    hwhole.addWhole l.whole_isDigits.2
  have hother :
      ¬ ((surplus.length : Int) = 0 ∧ l.fraction = none ∧ l.exponent = none) := by
    rintro ⟨hlength, hnone, hnone'⟩
    have hnil : surplus = [] := List.length_eq_zero_iff.mp (by omega)
    exact h ⟨hnone, hnone', hwhole.left_eq_nil_iff.mp hnil⟩
  rw [number?, hdigits, Digits.number?, if_neg hother, hfraction.addFraction l.isDigit_fraction]

/-- The digits that count are zeros if and only if all are. -/
theorem decimalValue_eq_zero_iff {first surplus second dropped : List Char}
    (hwhole : Takes [] l.whole first surplus)
    (hfraction : Takes first (l.fraction.getD []) second dropped) :
    decimalValue (first ++ second) = 0 ↔ decimalValue (l.whole ++ l.fraction.getD []) = 0 := by
  constructor
  · intro hzero
    have hfirst : decimalValue first = 0 :=
      Nat.le_zero.mp (hzero ▸ decimalValue_le_append first second)
    obtain rfl := hwhole.left_eq_nil_of_eq_zero l.whole_isDigits.2 hfirst
    obtain rfl := hfraction.left_eq_nil_of_eq_zero l.isDigit_fraction hzero
    rwa [hwhole.append, hfraction.append, List.append_nil, List.append_nil]
  · intro hzero
    have hfits : decimalValue l.whole = 0 :=
      Nat.le_zero.mp (hzero ▸ decimalValue_le_append l.whole _)
    obtain rfl := hwhole.left_eq_nil_iff.mpr (by rw [List.nil_append, hfits]; decide)
    have hall : l.whole = first := hwhole.append.trans (List.append_nil first)
    obtain rfl := hfraction.left_eq_nil_iff.mpr (by rw [← hall, hzero]; decide)
    have hall' : l.fraction.getD [] = second := hfraction.append.trans (List.append_nil second)
    rwa [← hall, ← hall']

theorem number?_eq_some_iff (h : ¬ l.IsPlain) {first surplus second dropped : List Char}
    (hwhole : Takes [] l.whole first surplus)
    (hfraction : Takes first (l.fraction.getD []) second dropped) {n : Number} :
    l.number? = some n ↔
      ∃ y, ((exponentValue l.exponent).natAbs < 0x80000000 ∧
          Scales (decimalValue (first ++ second)).toUInt64.toFloat
            (surplus.length - second.length + exponentValue l.exponent) y ∨
        0x80000000 ≤ (exponentValue l.exponent).natAbs ∧
          (exponentValue l.exponent < 0 ∨ decimalValue (l.whole ++ l.fraction.getD []) = 0) ∧
          y = 0.0) ∧ n = .double (withSign l.negative y) := by
  rw [number?_of_not_isPlain h hwhole hfraction, Option.map_eq_some_iff,
    ← decimalValue_eq_zero_iff hwhole hfraction]
  constructor
  · rintro ⟨x, hx, rfl⟩
    obtain ⟨y, hy, rfl⟩ := scaled?_eq_some_iff.mp hx
    exact ⟨y, hy, rfl⟩
  · rintro ⟨y, hy, rfl⟩
    exact ⟨_, scaled?_eq_some_iff.mpr ⟨y, hy, rfl⟩, rfl⟩

/-- **What a literal stands for is what gathering its digits comes to.** A literal that gathers to
no number, because it is too large for a double, stands for none. -/
theorem standsFor_iff {x : Float} :
    l.StandsFor x ↔ ∃ n, l.number? = some n ∧ n.toFloat = x := by
  constructor
  · rintro ⟨y, hy, rfl⟩
    cases hy with
    | whole h => exact ⟨_, number?_of_isPlain h, toFloat_wholeNumber l.negative _⟩
    | scaled h hwhole hfraction hexponent hx =>
      exact ⟨_, (number?_eq_some_iff h hwhole hfraction).mpr ⟨y, .inl ⟨hexponent, hx⟩, rfl⟩, rfl⟩
    | vanishing hexponent hvanishes =>
      obtain ⟨first, surplus, second, dropped, hwhole, hfraction⟩ := l.exists_takes_parts
      have h : ¬ l.IsPlain := by
        intro h
        rw [h.exponent] at hexponent
        exact absurd hexponent (by decide)
      exact ⟨_, (number?_eq_some_iff h hwhole hfraction).mpr
        ⟨0.0, .inr ⟨hexponent, hvanishes, rfl⟩, rfl⟩, rfl⟩
  · rintro ⟨n, hn, rfl⟩
    by_cases h : l.IsPlain
    · obtain rfl := Option.some.inj ((number?_of_isPlain h).symm.trans hn)
      exact ⟨_, .whole h, toFloat_wholeNumber l.negative _⟩
    · obtain ⟨first, surplus, second, dropped, hwhole, hfraction⟩ := l.exists_takes_parts
      obtain ⟨y, hy, rfl⟩ := (number?_eq_some_iff h hwhole hfraction).mp hn
      rcases hy with ⟨hexponent, hscales⟩ | ⟨hexponent, hvanishes, rfl⟩
      · exact ⟨y, .scaled h hwhole hfraction hexponent hscales, rfl⟩
      · exact ⟨0.0, .vanishing hexponent hvanishes, rfl⟩

theorem wholeNumber_eq_whole_iff {negative : Bool} {significand : Nat} {n : Int}
    (hlow : -0x8000000000000000 ≤ n) :
    wholeNumber negative significand = .whole n ↔
      n = (if negative then -(significand : Int) else significand) ∧
        (n = 0 → negative = false) := by
  cases negative with
  | false => simp [wholeNumber, eq_comm]
  | true =>
    simp only [wholeNumber, not_true_eq_false, if_false, if_true, Bool.true_eq_false]
    split
    · simp only [Number.whole.injEq]
      omega
    · rename_i hrange
      refine iff_of_false (fun h => Number.noConfusion h) ?_
      rintro ⟨hvalue, hzero⟩
      have hpos : n ≠ 0 := hzero
      omega

/-- A literal gathers to a whole number if and only if it spells that number. -/
theorem number?_eq_whole_iff {n : Int} (hlow : -0x8000000000000000 ≤ n) :
    l.number? = some (.whole n) ↔ l.IsWhole n := by
  by_cases h : l.IsPlain
  · rw [number?_of_isPlain h, Option.some.injEq, wholeNumber_eq_whole_iff hlow]
    exact ⟨fun ⟨hvalue, hzero⟩ => ⟨h, hvalue, hzero⟩, fun hn => ⟨hn.value, hn.zero⟩⟩
  · obtain ⟨first, surplus, second, dropped, hwhole, hfraction⟩ := l.exists_takes_parts
    refine iff_of_false ?_ fun hn => h hn.toIsPlain
    rw [number?_eq_some_iff h hwhole hfraction]
    rintro ⟨y, -, hy⟩
    injection hy

end Literal

end LoanPricing.Json
