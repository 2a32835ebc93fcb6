import LoanPricing.Proofs.Decimal.Arithmetic
import Mathlib.Algebra.Group.Nat.Defs

/-!
# Magnitude — operations that cannot overflow

The magnitude of a number in parts is known up to a factor of two from the place of its leading bit.
That is enough to see that a result fits: rounding moves the leading bit up by one place at most,
and never down. So a whole number of 64 bits is finite as a double, and a finite double that is
divided by one that is not below two stays finite. The powers of ten are not below two, except for
the first.
-/

namespace LoanPricing.Decimal

open Float.Model (Format UnpackedFloat totalExponent)
open Float.Model.UnpackedFloat (Accuracy ExtendedMantissa Sign unpack unpackExponent unpackMantissa
  pack unpackExponent_packComponents roundWithAccuracy shiftToTargetExponent)

variable {b : BitVec Format.binary64.numBits} {f g : UnpackedFloat}

/-! ## 1. Leading bits -/

theorem le_log2_of_pow_le {n k : Nat} (h : 2 ^ k ≤ n) : k ≤ n.log2 :=
  (Nat.le_log2 (Nat.ne_of_gt (Nat.lt_of_lt_of_le (Nat.two_pow_pos k) h))).mpr h

theorem log2_shiftLeft_lt {n bits : Nat} (hn : n < 2 ^ bits) (hbits : 0 < bits) (k : Nat) :
    (n <<< k).log2 < bits + k := by
  by_cases hzero : n <<< k = 0
  · rw [hzero]
    exact Nat.lt_of_lt_of_le hbits (Nat.le_add_right bits k)
  · rw [Nat.log2_lt hzero, Nat.shiftLeft_eq, Nat.pow_add]
    exact Nat.mul_lt_mul_of_pos_right hn (Nat.two_pow_pos k)

/-- The leading bit of a quotient of mantissas. -/
theorem log2_shiftLeft_div_le (m₁ m₂ k : Nat) (hm₂ : 0 < m₂) :
    ((m₁ <<< k) / m₂).log2 ≤ m₁.log2 + k - m₂.log2 := by
  by_cases hzero : (m₁ <<< k) / m₂ = 0
  · rw [hzero]
    exact Nat.zero_le _
  · have hm₁ : m₁ <<< k < 2 ^ (m₂.log2 + (m₁.log2 + k + 1 - m₂.log2)) :=
      calc m₁ <<< k
        _ < 2 ^ (m₁.log2 + 1) * 2 ^ k := by
          rw [Nat.shiftLeft_eq]
          exact Nat.mul_lt_mul_of_pos_right Nat.lt_log2_self (Nat.two_pow_pos k)
        _ = 2 ^ (m₁.log2 + 1 + k) := (Nat.pow_add ..).symm
        _ ≤ 2 ^ (m₂.log2 + (m₁.log2 + k + 1 - m₂.log2)) :=
          Nat.pow_le_pow_right (by decide) (by omega)
    have hlt : (m₁ <<< k) / m₂ < 2 ^ (m₁.log2 + k + 1 - m₂.log2) := by
      rw [Nat.div_lt_iff_lt_mul hm₂, Nat.mul_comm]
      refine Nat.lt_of_lt_of_le hm₁ ?_
      rw [Nat.pow_add]
      exact Nat.mul_le_mul_right _ (Nat.log2_self_le (Nat.ne_of_gt hm₂))
    have hbits := (Nat.log2_lt hzero).mpr hlt
    omega

/-! ## 2. Rounding -/

theorem mantissa_shiftRight (em : ExtendedMantissa) (k : Nat) :
    (em >>> k).mantissa = em.mantissa / 2 ^ k := by
  induction k with
  | zero => exact (Nat.div_one em.mantissa).symm
  | succ k ih =>
    show (em >>> k).mantissa / 2 = em.mantissa / 2 ^ (k + 1)
    rw [ih, Nat.div_div_eq_div_mul, ← Nat.pow_succ]

theorem roundedMantissa_cases (em : ExtendedMantissa) :
    em.roundedMantissa = em.mantissa ∨ em.roundedMantissa = em.mantissa + 1 := by
  obtain ⟨mantissa, roundBit, stickyBit⟩ := em
  cases roundBit with
  | false => cases stickyBit <;> exact .inl rfl
  | true =>
    cases stickyBit with
    | false =>
      -- halfway between the two, the even one is taken
      show mantissa + mantissa % 2 = mantissa ∨ mantissa + mantissa % 2 = mantissa + 1
      omega
    | true => exact .inr rfl

theorem mantissa_ofMantissaAndAccuracy (mantissa : Nat) (accuracy : Accuracy) :
    (ExtendedMantissa.ofMantissaAndAccuracy mantissa accuracy).mantissa = mantissa := by
  unfold ExtendedMantissa.ofMantissaAndAccuracy
  split <;> rfl

theorem shiftToTargetExponent_snd (mantissa : Nat) (exponent : Int) (accuracy : Accuracy) :
    (shiftToTargetExponent .binary64 mantissa exponent accuracy).2 =
      max exponent (max (totalExponent mantissa exponent - 53) (-1074)) := by
  show exponent + ((max (totalExponent mantissa exponent - 53) (-1074) - exponent).toNat : Int) = _
  omega

theorem shiftToTargetExponent_fst (mantissa : Nat) (exponent : Int) (accuracy : Accuracy) :
    (shiftToTargetExponent .binary64 mantissa exponent accuracy).1.mantissa =
      mantissa / 2 ^ (max (totalExponent mantissa exponent - 53) (-1074) - exponent).toNat := by
  show (ExtendedMantissa.ofMantissaAndAccuracy mantissa accuracy >>>
    (max (totalExponent mantissa exponent - 53) (-1074) - exponent).toNat).mantissa = _
  rw [mantissa_shiftRight, mantissa_ofMantissaAndAccuracy]

/-- After the shift the mantissa has 53 bits at most. -/
theorem mantissa_shiftToTargetExponent_lt (mantissa : Nat) (exponent : Int) (accuracy : Accuracy) :
    (shiftToTargetExponent .binary64 mantissa exponent accuracy).1.mantissa < 2 ^ 53 := by
  rw [shiftToTargetExponent_fst]
  have hbits : mantissa.log2 + 1 ≤
      (max (totalExponent mantissa exponent - 53) (-1074) - exponent).toNat + 53 := by
    unfold totalExponent
    omega
  generalize (max (totalExponent mantissa exponent - 53) (-1074) - exponent).toNat = k at hbits
  rw [Nat.div_lt_iff_lt_mul (Nat.two_pow_pos k), ← Nat.pow_add, Nat.add_comm]
  exact Nat.lt_of_lt_of_le Nat.lt_log2_self (Nat.pow_le_pow_right (by decide) hbits)

/-- What rounding leaves in the highest place but one, or below, stays finite. -/
theorem staysFinite_roundWithAccuracy {mantissa : Nat} {exponent : Int} (sign : Sign)
    (accuracy : Accuracy) (htotal : totalExponent mantissa exponent ≤ 1023)
    (hexponent : exponent ≤ 970) :
    StaysFinite (roundWithAccuracy .binary64 sign mantissa exponent accuracy) := by
  have hfirst := shiftToTargetExponent_snd mantissa exponent accuracy
  have hmantissa := mantissa_shiftToTargetExponent_lt mantissa exponent accuracy
  rcases roundWithAccuracy_cases sign mantissa exponent accuracy with ⟨-, h⟩ | ⟨hm, h⟩
  · rw [h]
    trivial
  · rw [h]
    show (shiftToTargetExponent _ _ _ _).2 + 1075 < 2047
    rw [shiftToTargetExponent_snd]
    generalize shiftToTargetExponent .binary64 mantissa exponent accuracy = first at *
    -- rounding up may take the mantissa to 2 ^ 53 and so the leading bit one place further
    have hrounded : first.1.roundedMantissa ≤ 2 ^ 53 := by
      have hround := roundedMantissa_cases first.1
      omega
    have hbits : first.1.roundedMantissa.log2 ≤ 53 := by
      by_cases hzero : first.1.roundedMantissa = 0
      · rw [hzero]
        decide
      · exact Nat.lt_succ_iff.mp ((Nat.log2_lt hzero).mpr
          (Nat.lt_of_le_of_lt hrounded (by decide)))
    unfold totalExponent at *
    omega

/-! ## 3. Whole numbers -/

theorem staysFinite_round {mantissa : Nat} (sign : Sign) (hm : mantissa < 2 ^ 64) :
    StaysFinite (UnpackedFloat.round .binary64 sign mantissa 0) := by
  -- the mantissa is shifted up to its place, if it is not there yet, which moves no leading bit
  have htotal : ∀ k : Nat, totalExponent (mantissa <<< k) (0 - k) ≤ 1023 := by
    intro k
    have hbits := log2_shiftLeft_lt hm (by decide) k
    unfold totalExponent
    omega
  exact staysFinite_roundWithAccuracy sign .exact (htotal _) (by omega)

theorem isFinite_toFloat (n : UInt64) : n.toFloat.isFinite = true := by
  have hstays : StaysFinite (UnpackedFloat.ofUInt64 .binary64 n) := by
    show StaysFinite (UnpackedFloat.normalize .binary64 (n.toNat : Int) 0 .positive)
    unfold UnpackedFloat.normalize
    split
    · rename_i hlt
      exact absurd (Int.compare_eq_lt.mp hlt) (by omega)
    · trivial
    · rw [Int.toNat_natCast]
      exact staysFinite_round .positive n.toNat_lt
  exact isFinite_unpack hstays.unpackExponent_pack

/-! ## 4. Quotients -/

/-- Whether a number in parts is finite and less than `2 ^ bound`, be it negative. -/
def IsBelow (bound : Int) : UnpackedFloat → Prop
  | .zero _ => True
  | .finite _ mantissa exponent _ => totalExponent mantissa exponent ≤ bound
  | _ => False

/-- Whether a number in parts is finite and at least `2 ^ bound`, or at most the opposite of it. -/
def IsAtLeast (bound : Int) : UnpackedFloat → Prop
  | .finite _ mantissa exponent _ => bound < totalExponent mantissa exponent
  | _ => False

instance (bound : Int) (f : UnpackedFloat) : Decidable (IsAtLeast bound f) :=
  match f with
  | .finite .. => inferInstanceAs (Decidable (_ < _))
  | .zero _ => .isFalse id
  | .infinity _ => .isFalse id
  | .notANumber => .isFalse id

theorem IsAtLeast.isFinite {bound : Int} (h : IsAtLeast bound f) : f.isFinite = true := by
  cases f with
  | finite sign mantissa exponent hm => rfl
  | _ => exact h.elim

/-- The mantissa of a double has 53 bits at most, with the leading one that is not stored. -/
theorem mantissa_unpack_lt {sign : Sign} {mantissa : Nat} {exponent : Int} {hm : 0 < mantissa}
    (h : unpack .binary64 b = .finite sign mantissa exponent hm) : mantissa < 2 ^ 53 := by
  unfold unpack at h
  by_cases hset : unpackExponent b = -1#11
  · rw [if_pos hset] at h
    by_cases hzero : unpackMantissa b = 0#52
    · rw [if_pos hzero] at h
      injection h
    · rw [if_neg hzero] at h
      injection h
  by_cases hclear : unpackExponent b = 0#11
  · rw [if_neg hset, if_pos hclear] at h
    by_cases hzero : unpackMantissa b = 0#52
    · rw [dif_pos hzero] at h
      injection h
    · rw [dif_neg hzero] at h
      injection h with _ hmantissa
      rw [← hmantissa]
      exact Nat.lt_trans (unpackMantissa b).isLt (by decide)
  · rw [if_neg hset, if_neg hclear] at h
    injection h with _ hmantissa
    rw [← hmantissa]
    exact (1#1 ++ unpackMantissa b).isLt

/-- All finite doubles are below `2 ^ 1024`. -/
theorem isBelow_unpack (h : (unpack .binary64 b).isFinite = true) :
    IsBelow 1024 (unpack .binary64 b) := by
  have hstays := staysFinite_unpack h
  cases hf : unpack .binary64 b with
  | zero sign => trivial
  | finite sign mantissa exponent hm =>
    have hbits : mantissa.log2 < 53 :=
      (Nat.log2_lt (Nat.ne_of_gt hm)).mpr (mantissa_unpack_lt hf)
    rw [hf] at hstays
    have hexponent : exponent + 1075 < 2047 := hstays
    show totalExponent mantissa exponent ≤ 1024
    unfold totalExponent
    omega
  | _ =>
    rw [hf] at h
    exact Bool.noConfusion h

/-- Dividing by something not below two takes the leading bit down, or leaves it, before rounding
takes it up again. -/
theorem staysFinite_div (hf : IsBelow 1024 f) (hg : IsAtLeast 1 g) :
    StaysFinite (UnpackedFloat.div .binary64 f g) := by
  cases g with
  | finite sign₂ m₂ e₂ hm₂ =>
    have htotal₂ : 1 < totalExponent m₂ e₂ := hg
    cases f with
    | zero sign₁ => trivial
    | finite sign₁ m₁ e₁ hm₁ =>
      have htotal₁ : totalExponent m₁ e₁ ≤ 1024 := hf
      have htarget : max (totalExponent m₁ e₁ - totalExponent m₂ e₂ - 53) (-1074) ≤ 970 := by
        omega
      -- the quotient is computed at a place that is low enough for all its bits
      have hquotient : ∀ e : Int, e ≤ e₁ - e₂ → e ≤ 970 →
          totalExponent ((m₁ <<< (e₁ - e₂ - e).toNat) / m₂) e ≤ 1023 := by
        intro e hle hplace
        have hbits := log2_shiftLeft_div_le m₁ m₂ (e₁ - e₂ - e).toNat hm₂
        unfold totalExponent at *
        omega
      have hplace := Int.le_trans (Int.min_le_right (e₁ - e₂) _) htarget
      exact staysFinite_roundWithAccuracy (sign₁ / sign₂) _
        (hquotient _ (Int.min_le_left ..) hplace) hplace
    | _ => exact hf.elim
  | _ => exact hg.elim

/-- A finite double divided by one that is not below two in magnitude is finite. -/
theorem isFinite_div {x y : Float} (hx : x.isFinite = true) (hy : IsAtLeast 1 y.toModel.unpack) :
    (x / y).isFinite = true :=
  isFinite_unpack (staysFinite_div (isBelow_unpack hx) hy).unpackExponent_pack

/-! ## 5. Lower bounds -/

/-- A mantissa of 53 bits or more is left with 53, unless the exponent was at its lowest. -/
theorem le_mantissa_shiftToTargetExponent {mantissa : Nat} {exponent : Int} (accuracy : Accuracy)
    (hmantissa : 2 ^ 52 ≤ mantissa) (hexponent : -1074 ≤ exponent) :
    2 ^ 52 ≤ (shiftToTargetExponent .binary64 mantissa exponent accuracy).1.mantissa := by
  have hbits : 52 ≤ mantissa.log2 := le_log2_of_pow_le hmantissa
  have hshift : (max (totalExponent mantissa exponent - 53) (-1074) - exponent).toNat =
      mantissa.log2 - 52 := by
    unfold totalExponent
    omega
  rw [shiftToTargetExponent_fst, hshift, Nat.le_div_iff_mul_le (Nat.two_pow_pos _), ← Nat.pow_add,
    Nat.add_sub_cancel' hbits]
  exact Nat.log2_self_le (Nat.ne_of_gt (Nat.lt_of_lt_of_le (by decide) hmantissa))

/-- A double is at least what its exponent says, if it is stored with a leading one. -/
theorem isAtLeast_unpack {bound : Int} (hset : unpackExponent b ≠ -1#11)
    (hclear : unpackExponent b ≠ 0#11) (hbound : bound < (unpackExponent b).toNat - 1022) :
    IsAtLeast bound (unpack .binary64 b) := by
  have hone : 2 ^ 52 ≤ (1#1 ++ unpackMantissa b).toNat := by
    rw [BitVec.toNat_append]
    exact Nat.left_le_or
  have hbits : 52 ≤ (1#1 ++ unpackMantissa b).toNat.log2 := le_log2_of_pow_le hone
  unfold unpack
  rw [if_neg hset, if_neg hclear]
  show bound < totalExponent (1#1 ++ unpackMantissa b).toNat
    ((unpackExponent b).toNat - ((Format.binary64.exponentBias : Int) + (52 : Nat)))
  rw [bias_eq]
  unfold totalExponent
  omega

/-- Parts with a full mantissa keep it when they are put together. -/
theorem isAtLeast_unpack_pack {sign : Sign} {mantissa : Nat} {exponent bound : Int}
    {hm : 0 < mantissa} (hbits : mantissa.log2 = 52) (hlow : -1074 ≤ exponent)
    (hstays : StaysFinite (.finite sign mantissa exponent hm)) (hbound : bound < exponent + 53) :
    IsAtLeast bound (unpack .binary64 (pack .binary64 (.finite sign mantissa exponent hm))) := by
  have hhigh : exponent + 1075 < 2047 := hstays
  have hsmall : ¬ 2 ^ 11 ≤ (exponent + 1075).toNat + 1 := by omega
  have hfull : mantissa.log2 + 1 = Format.binary64.mantissaBits := congrArg (· + 1) hbits
  have hexponent : unpackExponent (pack .binary64 (.finite sign mantissa exponent hm)) =
      BitVec.ofNat 11 (exponent + 1075).toNat := by
    unfold pack
    simp only [add_bias, if_neg hsmall, if_pos hfull]
    exact unpackExponent_packComponents
  have hstored : (BitVec.ofNat 11 (exponent + 1075).toNat).toNat = (exponent + 1075).toNat :=
    Nat.mod_eq_of_lt (by omega)
  refine isAtLeast_unpack hstays.unpackExponent_pack ?_ ?_
  · intro hclear
    have hzero : (exponent + 1075).toNat = 0 := by
      rw [← hstored, ← hexponent, hclear]
      rfl
    omega
  · rw [hexponent, hstored]
    omega

/-- Rounding does not bring the leading bit down, if there are 53 bits to begin with. -/
theorem isAtLeast_roundWithAccuracy {mantissa : Nat} {exponent bound : Int} (sign : Sign)
    (accuracy : Accuracy) (hmantissa : 2 ^ 52 ≤ mantissa) (hlow : -1074 ≤ exponent)
    (hhigh : totalExponent mantissa exponent ≤ 1023)
    (hbound : bound < totalExponent mantissa exponent) :
    IsAtLeast bound (unpack .binary64
      (pack .binary64 (roundWithAccuracy .binary64 sign mantissa exponent accuracy))) := by
  have hbits : 52 ≤ mantissa.log2 := le_log2_of_pow_le hmantissa
  have hstays := staysFinite_roundWithAccuracy sign accuracy hhigh
    (by unfold totalExponent at hhigh; omega)
  have hcases := roundWithAccuracy_cases sign mantissa exponent accuracy
  have hfirst := shiftToTargetExponent_snd mantissa exponent accuracy
  have hfull := le_mantissa_shiftToTargetExponent accuracy hmantissa hlow
  generalize shiftToTargetExponent .binary64 mantissa exponent accuracy = first at *
  have hrounded : 2 ^ 52 ≤ first.1.roundedMantissa := by
    have hround := roundedMantissa_cases first.1
    omega
  have hroundedBits : 52 ≤ first.1.roundedMantissa.log2 := le_log2_of_pow_le hrounded
  have hplace : -1074 ≤ first.2 := by omega
  have hsecond := shiftToTargetExponent_snd first.1.roundedMantissa first.2 .exact
  have hle := le_mantissa_shiftToTargetExponent .exact hrounded hplace
  have hlt := mantissa_shiftToTargetExponent_lt first.1.roundedMantissa first.2 .exact
  rcases hcases with ⟨hzero, -⟩ | ⟨hm, h⟩
  · rw [hzero] at hle
    exact absurd hle (by decide)
  · rw [h] at hstays ⊢
    unfold totalExponent at *
    exact isAtLeast_unpack_pack ((Nat.log2_eq_iff (Nat.ne_of_gt hm)).mpr ⟨hle, hlt⟩)
      (by omega) hstays (by omega)

/-! ## 6. Powers of ten -/

/-- A power of ten that may not be exact is computed with 53 bits to spare, and rounded. -/
theorem unpack_ofScientific {exponent : Nat} (hlow : 22 < exponent) (hhigh : exponent ≤ 2048) :
    (Float.ofScientific 1 false exponent).toModel.unpack =
      unpack .binary64 (pack .binary64
        (roundWithAccuracy .binary64 .positive (10 ^ exponent <<< 53) (-53) .exact)) := by
  have hinexact : ¬ (1 < 2 ^ 53 ∧ exponent ≤ 22) := fun h => absurd h.2 (Nat.not_le.mpr hlow)
  have hlarge : ¬ ((exponent : Int) > 2 ^ Format.binary64.exponentBits) := by
    show ¬ ((exponent : Int) > 2 ^ 11)
    omega
  have hsmall :
      ¬ ((exponent : Int) < -(2 ^ Format.binary64.exponentBits + (Nat.log2 1 : Nat))) := by
    show ¬ ((exponent : Int) < -(2 ^ 11 + (Nat.log2 1 : Nat)))
    omega
  have hproduct : UnpackedFloat.ofScientific .binary64 1 exponent =
      roundWithAccuracy .binary64 .positive (10 ^ exponent <<< 53) (-53) .exact := by
    rw [Nat.shiftLeft_eq, Nat.mul_comm]
    unfold UnpackedFloat.ofScientific
    rw [dif_neg Nat.one_ne_zero, if_neg hlarge, if_neg hsmall, if_pos (Int.natCast_nonneg exponent)]
    rfl
  unfold Float.ofScientific
  rw [dif_neg hinexact, ← hproduct]
  rfl

theorem isAtLeast_ofScientific_inexact {exponent : Nat} (hlow : 22 < exponent)
    (hhigh : exponent < 308) :
    IsAtLeast 1 (Float.ofScientific 1 false exponent).toModel.unpack := by
  have hten : 10 ≤ 10 ^ exponent := Nat.le_self_pow (by omega) 10
  have hmax : 10 ^ exponent < 2 ^ 1023 :=
    Nat.lt_of_le_of_lt (Nat.pow_le_pow_right (by decide) (Nat.le_of_lt_succ hhigh))
      (by decide +kernel)
  have hhighest := log2_shiftLeft_lt hmax (by decide) 53
  have hmantissa : 2 ^ 54 ≤ 10 ^ exponent <<< 53 := by
    rw [Nat.shiftLeft_eq]
    omega
  have hlowest : 54 ≤ (10 ^ exponent <<< 53).log2 := le_log2_of_pow_le hmantissa
  rw [unpack_ofScientific hlow (by omega)]
  refine isAtLeast_roundWithAccuracy .positive .exact (by omega) (by decide) ?_ ?_
  · unfold totalExponent
    omega
  · unfold totalExponent
    omega

/-- The powers of ten that are finite as doubles are at least two, except for the first. -/
theorem isAtLeast_ofScientific {exponent : Nat} (hpos : 0 < exponent) (hle : exponent ≤ 308) :
    IsAtLeast 1 (Float.ofScientific 1 false exponent).toModel.unpack := by
  have hexact : ∀ e < 23, 0 < e → IsAtLeast 1 (Float.ofScientific 1 false e).toModel.unpack := by
    decide +kernel
  rcases Nat.lt_or_ge exponent 23 with hlt | hge
  · exact hexact exponent hlt hpos
  rcases Nat.lt_or_eq_of_le hle with hlt | rfl
  · exact isAtLeast_ofScientific_inexact hge hlt
  · decide +kernel

end LoanPricing.Decimal
