import LoanPricing.Proofs.Decimal.Negation

/-!
# Arithmetic — which sums and products are numbers

An operation takes its operands apart, works on the parts and rounds what comes of them. Rounding
gives a zero or a finite number in parts, and putting parts together at worst makes them infinite.
So a result is no number only where the operation says so itself, before it rounds anything.
-/

namespace LoanPricing.Decimal

open Float.Model (Format UnpackedFloat)
open Float.Model.UnpackedFloat (Accuracy Sign unpack unpackExponent unpackMantissa pack
  packComponents unpackMantissa_packComponents shiftToTargetExponent roundWithAccuracy)

variable {b : BitVec Format.binary64.numBits} {f g : UnpackedFloat}

/-! ## 1. Putting together -/

theorem isNaN_of_isFinite (h : f.isFinite = true) : f.isNaN = false := by
  cases f with
  | zero sign => rfl
  | finite sign mantissa exponent hm => rfl
  | _ => exact Bool.noConfusion h

theorem isFinite_of_isNaN_of_isInf (hn : f.isNaN = false) (hi : f.isInf = false) :
    f.isFinite = true := by
  cases f with
  | notANumber => exact Bool.noConfusion hn
  | infinity sign => exact Bool.noConfusion hi
  | zero sign => rfl
  | finite sign mantissa exponent hm => rfl

/-- Bits without a mantissa are an infinity if all bits of the exponent are set, and otherwise
finite. -/
theorem isNaN_unpack_of_mantissa_eq_zero (h : unpackMantissa b = 0#52) :
    (unpack .binary64 b).isNaN = false := by
  by_cases hset : unpackExponent b = -1#11
  · unfold unpack
    rw [if_pos hset, if_pos h]
    rfl
  · exact isNaN_of_isFinite (isFinite_unpack hset)

/-- Parts of a number are bits of a number. -/
theorem isNaN_unpack_pack (h : f.isNaN = false) :
    (unpack .binary64 (pack .binary64 f)).isNaN = false := by
  have hinfinity : ∀ sign : Sign,
      (unpack .binary64 (packComponents .binary64 sign (-1#11) 0#52)).isNaN = false :=
    fun _ => isNaN_unpack_of_mantissa_eq_zero unpackMantissa_packComponents
  cases f with
  | notANumber => exact Bool.noConfusion h
  | infinity sign => exact hinfinity sign
  | zero sign => exact isNaN_unpack_of_mantissa_eq_zero unpackMantissa_packComponents
  | finite sign mantissa exponent hm =>
    by_cases hsmall : exponent + 1075 < 2047
    · have hstays : StaysFinite (.finite sign mantissa exponent hm) := hsmall
      exact isNaN_of_isFinite (isFinite_unpack hstays.unpackExponent_pack)
    · -- the exponent does not fit, and the number becomes infinite
      have hlarge : 2 ^ 11 ≤ (exponent + 1075).toNat + 1 := by omega
      unfold pack
      simp only [add_bias, if_pos hlarge]
      exact hinfinity sign

/-! ## 2. Rounding -/

/-- Rounding shifts a mantissa to its place and rounds it, shifts it once more in case it has grown
by that, and makes a number of it unless nothing is left. -/
theorem roundWithAccuracy_cases (sign : Sign) (mantissa : Nat) (exponent : Int)
    (accuracy : Accuracy) :
    let first := shiftToTargetExponent .binary64 mantissa exponent accuracy
    let last := shiftToTargetExponent .binary64 first.1.roundedMantissa first.2 .exact
    last.1.mantissa = 0 ∧
        roundWithAccuracy .binary64 sign mantissa exponent accuracy = .zero sign ∨
      ∃ hm, roundWithAccuracy .binary64 sign mantissa exponent accuracy =
        .finite sign last.1.mantissa last.2 hm := by
  intro first last
  by_cases h : last.1.mantissa = 0
  · exact .inl ⟨h, dif_pos h⟩
  · exact .inr ⟨Nat.pos_of_ne_zero h, dif_neg h⟩

theorem isFinite_roundWithAccuracy (sign : Sign) (mantissa : Nat) (exponent : Int)
    (accuracy : Accuracy) :
    (roundWithAccuracy .binary64 sign mantissa exponent accuracy).isFinite = true := by
  rcases roundWithAccuracy_cases sign mantissa exponent accuracy with ⟨-, h⟩ | ⟨hm, h⟩ <;>
    rw [h] <;> rfl

theorem isFinite_normalize (mantissa : Int) (exponent : Int) (zeroSign : Sign) :
    (UnpackedFloat.normalize .binary64 mantissa exponent zeroSign).isFinite = true := by
  unfold UnpackedFloat.normalize
  split
  · exact isFinite_roundWithAccuracy ..
  · rfl
  · exact isFinite_roundWithAccuracy ..

/-! ## 3. Sums and products -/

/-- Infinities of opposite signs have no sum, but a finite number may be added to either. -/
theorem isNaN_unpacked_add (hf : f.isNaN = false) (hg : g.isFinite = true) :
    (UnpackedFloat.add .binary64 f g).isNaN = false := by
  cases f with
  | notANumber => exact Bool.noConfusion hf
  | infinity sign =>
    cases g with
    | zero sign' => rfl
    | finite sign' mantissa' exponent' hm' => rfl
    | _ => exact Bool.noConfusion hg
  | zero sign =>
    cases g with
    | zero sign' =>
      unfold UnpackedFloat.add
      simp only
      split <;> rfl
    | finite sign' mantissa' exponent' hm' => rfl
    | _ => exact Bool.noConfusion hg
  | finite sign mantissa exponent hm =>
    cases g with
    | zero sign' => rfl
    | finite sign' mantissa' exponent' hm' =>
      exact isNaN_of_isFinite (isFinite_normalize ..)
    | _ => exact Bool.noConfusion hg

theorem isNaN_unpacked_mul (hf : f.isFinite = true) (hg : g.isFinite = true) :
    (UnpackedFloat.mul .binary64 f g).isNaN = false := by
  cases f with
  | zero sign =>
    cases g with
    | zero sign' => rfl
    | finite sign' mantissa' exponent' hm' => rfl
    | _ => exact Bool.noConfusion hg
  | finite sign mantissa exponent hm =>
    cases g with
    | zero sign' => rfl
    | finite sign' mantissa' exponent' hm' =>
      exact isNaN_of_isFinite (isFinite_roundWithAccuracy ..)
    | _ => exact Bool.noConfusion hg
  | _ => exact Bool.noConfusion hf

/-- Adding a finite double to one that is a number, be it infinite, gives a number. -/
theorem isNaN_add {x y : Float} (hx : x.isNaN = false) (hy : y.isFinite = true) :
    (x + y).isNaN = false :=
  isNaN_unpack_pack (isNaN_unpacked_add hx hy)

/-- A product of finite doubles is finite or infinite. -/
theorem isFinite_mul {x y : Float} (hx : x.isFinite = true) (hy : y.isFinite = true)
    (h : (x * y).isInf = false) : (x * y).isFinite = true :=
  isFinite_of_isNaN_of_isInf (isNaN_unpack_pack (isNaN_unpacked_mul hx hy)) h

end LoanPricing.Decimal
