import LoanPricing.Json.Value
import LoanPricing.Proofs.Decimal.Characters
import LoanPricing.Proofs.Json.LiteralValue

/-!
# Texts of numbers — what is written is a literal

The decimal text of a whole number is a literal that spells it, as long as it fits 64 bits. The
JSON text of a double is a literal too, whichever layout it has.
-/

namespace LoanPricing.Json

open Text (digit? isDigit ofNat ofInt)

/-! ## 1. Digits of natural numbers -/

theorem isDigit_of_charIsDigit {c : Char} (h : c.isDigit = true) : isDigit c = true := by
  rw [Char.isDigit, Bool.and_eq_true, decide_eq_true_eq, decide_eq_true_eq] at h
  have hbounds : '0' ≤ c ∧ c ≤ '9' := h
  rw [isDigit_eq_isSome, digit?, if_pos hbounds]
  rfl

theorem isDigits_ofNat (n : Nat) : IsDigits (ofNat n) :=
  ⟨Nat.toDigits_ne_nil, fun _ hc => isDigit_of_charIsDigit (Decimal.mem_ofNat hc)⟩

/-- Only the digits of zero begin with a zero. -/
theorem eq_zero_of_head?_ofNat {n : Nat} (h : (ofNat n).head? = some '0') : n = 0 := by
  induction n using Nat.strongRecOn with
  | _ n ih =>
    unfold ofNat at h ih
    by_cases hlt : n < 10
    · rw [Nat.toDigits_of_lt_base hlt, List.head?_cons, Option.some.injEq] at h
      exact Nat.digitChar_eq_zero.mp h
    · obtain ⟨c, tail, hdigits⟩ :=
        List.exists_cons_of_ne_nil (Nat.toDigits_ne_nil (n := n / 10) (b := 10))
      have hhead : (Nat.toDigits 10 (n / 10)).head? = some '0' := by
        rw [Nat.toDigits_of_base_le (by decide) (Nat.not_lt.mp hlt), hdigits] at h
        rw [hdigits]
        exact h
      have := ih (n / 10) (by omega) hhead
      omega

theorem ofNat_zero : ofNat 0 = ['0'] :=
  Nat.toDigits_zero 10

theorem natOn?_of_isDigit {ds : List Char} (hds : ∀ c ∈ ds, isDigit c = true) (acc : Nat) :
    Text.natOn? 10 digit? acc ds = some (Nat.ofDigitChars 10 ds acc) := by
  induction ds generalizing acc with
  | nil => rfl
  | cons c ds ih =>
    obtain ⟨hc, hds⟩ := List.forall_mem_cons.mp hds
    have hnext : acc * 10 + digitValue c = 10 * acc + (c.toNat - '0'.toNat) := by
      rw [digitValue_eq hc, Nat.mul_comm]
    rw [Text.natOn?, digit?_of_isDigit hc, Nat.ofDigitChars_cons, ← hnext]
    exact ih hds _

theorem nat?_ofNat (n : Nat) : Text.nat? (ofNat n) = some n := by
  obtain ⟨c, tail, hdigits⟩ := List.exists_cons_of_ne_nil (isDigits_ofNat n).1
  have hvalue := natOn?_of_isDigit (isDigits_ofNat n).2 0
  rw [hdigits] at hvalue ⊢
  rw [Text.nat?, hvalue, ← hdigits]
  · exact congrArg some Nat.ofDigitChars_ten_toDigits
  · exact List.cons_ne_nil c tail

/-- The decimal text of a whole number spells it. -/
theorem int?_ofInt (n : Int) : Text.int? (ofInt n) = some n := by
  unfold ofInt
  by_cases hneg : n < 0
  · have habs : -(n.natAbs : Int) = n := by omega
    rw [if_pos hneg, Text.int?, nat?_ofNat]
    exact congrArg some habs
  · have habs : (n.natAbs : Int) = n := by omega
    -- digits begin with no sign
    obtain ⟨c, tail, hdigits, hc, -⟩ := (isDigits_ofNat n.natAbs).cons
    have hvalue := nat?_ofNat n.natAbs
    rw [if_neg hneg, hdigits]
    rw [hdigits] at hvalue
    rw [Text.int?, hvalue, Option.map_some]
    · exact congrArg some habs
    all_goals
      rintro rest heq
      rw [(List.cons.inj heq).1] at hc
      exact absurd hc (by decide)

/-! ## 2. Whole numbers -/

/-- The literal of a whole number. -/
def wholeLiteral (n : Int) : Literal where
  negative := decide (n < 0)
  whole := ofNat n.natAbs
  fraction := none
  exponent := none
  whole_isDigits := isDigits_ofNat n.natAbs
  whole_zero h := by rw [eq_zero_of_head?_ofNat h, ofNat_zero]
  fraction_isDigits := nofun

theorem wholeLiteral_text (n : Int) : (wholeLiteral n).text = ofInt n := by
  simp only [Literal.text, Literal.magnitude, wholeLiteral, fractionText, exponentText,
    List.append_nil, decide_eq_true_eq, ofInt]

/-- The decimal text of a whole number spells it, as long as it fits 64 bits. -/
theorem isWhole_wholeLiteral {n : Int} (h : n.natAbs < UInt64.size) :
    (wholeLiteral n).IsWhole n := by
  have hdigits : decimalValue (wholeLiteral n).whole = n.natAbs := Nat.ofDigitChars_ten_toDigits
  refine ⟨⟨rfl, rfl, by rwa [hdigits]⟩, ?_, fun hzero => ?_⟩
  · rw [hdigits]
    show n = if decide (n < 0) = true then -(n.natAbs : Int) else n.natAbs
    by_cases hneg : n < 0
    · rw [if_pos (decide_eq_true hneg)]
      omega
    · rw [if_neg (by rwa [decide_eq_true_eq])]
      omega
  · exact decide_eq_false (by omega)

end LoanPricing.Json

/-! ## 3. Shortest decimals -/

namespace LoanPricing.Decimal

/-- Zero is nearer to no double than to zero, so that it is no candidate for another one. -/
theorem Neighbourhood.candidate?_ne_zero {tie : Tie} {n : Neighbourhood} {k : Int} {d : Nat}
    (hbelow : n.below < n.center) (h : n.candidate? tie k = some d) : d ≠ 0 := by
  unfold candidate? at h
  extract_lets scale step center low high inside down up at h
  have hscale : 0 < scale := Nat.mul_pos (Nat.pow_pos (by decide)) (Nat.pow_pos (by decide))
  have hlow : 0 < low := Nat.mul_pos (by omega) hscale
  -- the lower of the two grid points is only taken if it is inside
  have hdown : inside down = true → down ≠ 0 := by
    intro hinside hzero
    simp only [inside, hzero, Nat.zero_mul] at hinside
    split at hinside
    · simp only [Bool.and_eq_true, decide_eq_true_eq] at hinside
      omega
    · simp only [Bool.and_eq_true, decide_eq_true_eq] at hinside
      omega
  have hup : up ≠ 0 := Nat.succ_ne_zero down
  clear_value inside down up center low high
  split at h
  · rename_i hboth
    have hne := hdown (Bool.and_eq_true_iff.mp hboth).1
    split at h
    · exact Option.some.inj h ▸ hne
    split at h
    · exact Option.some.inj h ▸ hup
    split at h
    · exact Option.some.inj h ▸ hup
    · obtain rfl := Option.some.inj h
      split
      · exact hne
      · exact hup
  split at h
  · rename_i hinside
    exact Option.some.inj h ▸ hdown hinside
  split at h
  · exact Option.some.inj h ▸ hup
  · injection h

theorem Numeral.trimmed_of_eq_zero {d : Numeral} (h : d.digits = 0) : d.trimmed = d := by
  rw [trimmed, dif_neg (fun hne => hne.1 h)]

theorem Numeral.trimmed_ne_zero {d : Numeral} (h : d.digits ≠ 0) : d.trimmed.digits ≠ 0 := by
  fun_induction trimmed d with
  | case1 d hzero ih => exact ih (by simp only; omega)
  | case2 d _ => exact h

/-- The search ends with zero digits on a grid of whole numbers only if there is no whole number of
its units to begin with. -/
theorem Neighbourhood.search_exponent_nonpos {tie : Tie} {n : Neighbourhood}
    (hbelow : n.below < n.center) {tries : Nat} {k : Int} (hunit : 0 < k - tries → 0 ≤ n.unit)
    (hzero : (n.search tie tries k).digits = 0) : (n.search tie tries k).exponent ≤ 0 := by
  induction tries generalizing k with
  | zero =>
    refine Int.not_lt.mp fun hpos => ?_
    have hk : 0 < k := hpos
    have hone : (-n.unit).toNat = 0 := by
      have := hunit (by omega)
      omega
    have hdigits : n.center * Nat.pow 2 n.unit.toNat / Nat.pow 2 (-n.unit).toNat = 0 := hzero
    rw [hone] at hdigits
    have hcenter : 0 < n.center * Nat.pow 2 n.unit.toNat :=
      Nat.mul_pos (by omega) (Nat.pow_pos (by decide))
    have : Nat.pow 2 0 = 1 := rfl
    rw [this, Nat.div_one] at hdigits
    omega
  | succ tries ih =>
    unfold search at hzero ⊢
    split
    · rename_i d hcandidate
      rw [hcandidate] at hzero
      exact absurd hzero (candidate?_ne_zero hbelow hcandidate)
    · rename_i hnone
      rw [hnone] at hzero
      exact ih (fun h => hunit (by omega)) hzero

theorem Binary.mantissa_lt (x : Float) : (Binary.ofFloat x).mantissa < 0x20000000000000 := by
  have hfraction : fractionField x < 0x10000000000000 := by
    have hle : (x.toBits &&& 0xFFFFFFFFFFFFF).toNat ≤ 0xFFFFFFFFFFFFF := by
      rw [UInt64.toNat_and]
      exact Nat.and_le_right
    have : fractionField x = (x.toBits &&& 0xFFFFFFFFFFFFF).toNat := rfl
    omega
  unfold ofFloat
  simp only
  split
  · simp only
    omega
  · simp only
    omega

/-- A double with the digits zero is written without an exponent, so that no zeros are appended. -/
theorem shortest_exponent_nonpos {tie : Tie} {x : Float} (hzero : (shortest tie x).digits = 0) :
    (shortest tie x).exponent ≤ 0 := by
  obtain ⟨b, hb⟩ : ∃ b, b = Binary.ofFloat x := ⟨_, rfl⟩
  have hshortest : shortest tie x = if b.mantissa = 0 then { digits := 0, exponent := 0 }
      else (b.neighbourhood.search tie 24 b.neighbourhood.topExponent).trimmed := by
    rw [hb]
    rfl
  rw [hshortest] at hzero ⊢
  by_cases hmantissa : b.mantissa = 0
  · exact Int.le_of_eq (by rw [if_pos hmantissa])
  rw [if_neg hmantissa] at hzero ⊢
  have hcenter : b.neighbourhood.center = 4 * b.mantissa := rfl
  have hbelow : b.neighbourhood.below < b.neighbourhood.center := by
    have hle : b.neighbourhood.below ≤ 2 := by
      show (if b.narrowBelow then 1 else 2) ≤ 2
      split <;> decide
    omega
  have hsearch : (b.neighbourhood.search tie 24 b.neighbourhood.topExponent).digits = 0 :=
    Decidable.byContradiction fun hne => Numeral.trimmed_ne_zero hne hzero
  rw [Numeral.trimmed_of_eq_zero hsearch]
  refine b.neighbourhood.search_exponent_nonpos hbelow (fun hpos => ?_) hsearch
  -- twenty-four grids below the first digit are whole numbers of units only for large units
  have hlog : b.neighbourhood.center.log2 < 55 := by
    have hmantissa_lt : b.mantissa < 0x20000000000000 := by
      rw [hb]
      exact Binary.mantissa_lt x
    exact (Nat.log2_lt (by omega)).mpr (by omega)
  unfold Neighbourhood.topExponent at hpos
  omega

end LoanPricing.Decimal

/-! ## 4. Doubles -/

namespace LoanPricing.Json

open Decimal (Numeral)
open Text (isDigit ofNat ofInt)

theorem IsDigits.append {ds es : List Char} (hds : IsDigits ds) (hes : ∀ c ∈ es, isDigit c = true) :
    IsDigits (ds ++ es) := by
  refine ⟨List.append_ne_nil_of_left_ne_nil hds.1 es, fun c hc => ?_⟩
  exact (List.mem_append.mp hc).elim (hds.2 c) (hes c)

theorem isDigit_of_mem_zeros {n : Nat} : ∀ c ∈ List.replicate n '0', isDigit c = true := by
  intro c hc
  rw [List.eq_of_mem_replicate hc]
  rfl

/-- Positional notation is a literal: zeros that are appended do not follow a zero. -/
theorem exists_literal_positional (negative : Bool) {d : Numeral}
    (hzero : d.digits = 0 → d.exponent ≤ 0) :
    ∃ l : Literal, l.negative = negative ∧ l.magnitude = d.positional ['.', '0'] := by
  have hdigits := isDigits_ofNat d.digits
  have hlength : d.point = (ofNat d.digits).length + d.exponent := rfl
  unfold Numeral.positional
  simp only
  by_cases hwhole : 0 ≤ d.exponent
  · refine ⟨⟨negative, ofNat d.digits ++ List.replicate d.exponent.toNat '0', some ['0'], none,
      hdigits.append isDigit_of_mem_zeros, fun h => ?_, ?_⟩, rfl, ?_⟩
    · have hdigit : d.digits = 0 := by
        refine eq_zero_of_head?_ofNat ?_
        obtain ⟨c, tail, hcons, -⟩ := hdigits.cons
        rw [hcons, List.cons_append] at h
        rw [hcons]
        exact h
      have hexponent : d.exponent.toNat = 0 := by
        have := hzero hdigit
        omega
      rw [hdigit, hexponent, ofNat_zero]
      rfl
    · rintro ds hds
      obtain rfl := Option.some.inj hds
      decide
    · rw [if_pos hwhole]
      simp only [Literal.magnitude, fractionText, exponentText, List.append_nil]
  rw [if_neg hwhole]
  by_cases hpoint : d.point ≤ 0
  · -- the digits stand behind the point, and zeros before them
    refine ⟨⟨negative, ['0'], some (List.replicate (-d.point).toNat '0' ++ ofNat d.digits), none,
      by decide, fun _ => rfl, ?_⟩, rfl, ?_⟩
    · rintro ds hds
      obtain rfl := Option.some.inj hds
      refine ⟨List.append_ne_nil_of_right_ne_nil _ hdigits.1, fun c hc => ?_⟩
      exact (List.mem_append.mp hc).elim (isDigit_of_mem_zeros c) (hdigits.2 c)
    · rw [if_pos hpoint]
      simp only [Literal.magnitude, fractionText, exponentText, List.append_nil,
        List.singleton_append]
  · -- the point stands between the digits
    have hlt : d.point.toNat < (ofNat d.digits).length := by omega
    refine ⟨⟨negative, (ofNat d.digits).take d.point.toNat,
      some ((ofNat d.digits).drop d.point.toNat), none, ⟨fun hnil => ?_, fun c hc => ?_⟩,
      fun h => ?_, ?_⟩, rfl, ?_⟩
    · rcases List.take_eq_nil_iff.mp hnil with h | h
      · omega
      · exact hdigits.1 h
    · exact hdigits.2 c (List.mem_of_mem_take hc)
    · rw [List.head?_take, if_neg (by omega)] at h
      rw [eq_zero_of_head?_ofNat h, ofNat_zero, List.length_singleton] at hlt
      omega
    · rintro ds hds
      obtain rfl := Option.some.inj hds
      refine ⟨fun hnil => ?_, fun c hc => hdigits.2 c (List.mem_of_mem_drop hc)⟩
      have := List.drop_eq_nil_iff.mp hnil
      omega
    · rw [if_neg hpoint]
      simp only [Literal.magnitude, fractionText, exponentText, List.append_nil]

/-- The exponent of a literal, signed in both directions. -/
def signedExponent (n : Int) : Exponent where
  letter := 'e'
  sign := some (if 0 ≤ n then '+' else '-')
  digits := ofNat n.natAbs
  letter_mem := .inl rfl
  sign_mem c hc := by
    obtain rfl := Option.some.inj hc
    split
    · exact .inl rfl
    · exact .inr rfl
  isDigits := isDigits_ofNat n.natAbs

theorem signedExponent_text (n : Int) :
    (signedExponent n).text = 'e' :: ((if 0 ≤ n then ['+'] else []) ++ ofInt n) := by
  unfold Exponent.text signedExponent ofInt
  by_cases h : 0 ≤ n
  · simp only [if_pos h, if_neg (Int.not_lt.mpr h), Option.toList_some]
  · simp only [if_neg h, if_pos (Int.not_le.mp h), Option.toList_some, List.nil_append,
      List.singleton_append]

theorem exists_literal_scientific (negative : Bool) (d : Numeral) :
    ∃ l : Literal, l.negative = negative ∧ l.magnitude = d.scientific ['+'] := by
  have hdigits := isDigits_ofNat d.digits
  obtain ⟨first, more, hcons, hfirst, hmore⟩ := hdigits.cons
  have hwhole : IsDigits [first] := ⟨List.cons_ne_nil _ _, fun c hc => by
    rw [List.mem_singleton.mp hc]
    exact hfirst⟩
  have hzero : [first].head? = some '0' → [first] = ['0'] := by
    intro h
    rw [Option.some.inj h]
  unfold Numeral.scientific
  rw [hcons]
  cases more with
  | nil =>
    refine ⟨⟨negative, [first], none, some (signedExponent (d.point - 1)), hwhole, hzero, nofun⟩,
      rfl, ?_⟩
    simp only [Literal.magnitude, fractionText, exponentText, signedExponent_text, List.nil_append]
  | cons second more =>
    refine ⟨⟨negative, [first], some (second :: more), some (signedExponent (d.point - 1)), hwhole,
      hzero, ?_⟩, rfl, ?_⟩
    · rintro ds hds
      obtain rfl := Option.some.inj hds
      exact ⟨List.cons_ne_nil _ _, hmore⟩
    · simp only [Literal.magnitude, fractionText, exponentText, signedExponent_text,
        List.cons_append, List.nil_append]

/-- The JSON text of a double is a literal. -/
theorem exists_literal_json (x : Float) : ∃ l : Literal, Decimal.json x = l.text := by
  have hlayout : ∃ l : Literal, l.negative = Decimal.signBit x ∧ l.magnitude =
      (if (Decimal.shortest .even x).digits = 0 ∨ (-5 < (Decimal.shortest .even x).point ∧
          (Decimal.shortest .even x).point ≤ 16) then
        (Decimal.shortest .even x).positional ['.', '0']
      else (Decimal.shortest .even x).scientific ['+']) := by
    split
    · exact exists_literal_positional _ Decimal.shortest_exponent_nonpos
    · exact exists_literal_scientific _ _
  obtain ⟨l, hsign, hmagnitude⟩ := hlayout
  refine ⟨l, ?_⟩
  unfold Decimal.json Decimal.signed Literal.text
  rw [hsign, hmagnitude]

end LoanPricing.Json
