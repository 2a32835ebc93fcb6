/-!
# Negation — finite doubles stay finite

The bits of a double are taken apart, the sign is changed, and the parts are put together again. A
number is finite unless all bits of its exponent are set. So it is enough that the exponent of a
finite number is small, and that a number with a small exponent gets bits that are not all set.
-/

namespace LoanPricing.Decimal

open Float.Model (Format UnpackedFloat)
open Float.Model.UnpackedFloat (unpack unpackExponent unpackMantissa pack
  packComponents unpackExponent_packComponents)

variable {b : BitVec Format.binary64.numBits} {f : UnpackedFloat}

theorem bias_eq : (Format.binary64.exponentBias : Int) + (52 : Nat) = 1075 := rfl

/-- The exponent as it is stored, for the place of the last bit of the mantissa. -/
theorem add_bias (exponent : Int) :
    exponent + (Format.binary64.exponentBias : Int) + (52 : Nat) = exponent + 1075 :=
  Int.add_assoc exponent 1023 52

/-- Whether a number in parts is still finite when they are put together. -/
def StaysFinite : UnpackedFloat → Prop
  | .zero _ => True
  | .finite _ _ exponent _ => exponent + 1075 < 2047
  | _ => False

theorem StaysFinite.neg (h : StaysFinite f) : StaysFinite f.neg := by
  cases f with
  | zero sign => trivial
  | finite sign mantissa exponent hm => exact h
  | _ => exact h.elim

/-- What stays finite does not have all bits of its exponent set. -/
theorem StaysFinite.unpackExponent_pack (h : StaysFinite f) :
    unpackExponent (pack .binary64 f) ≠ -1#11 := by
  cases f with
  | notANumber => exact h.elim
  | infinity sign => exact h.elim
  | zero sign =>
    show unpackExponent (packComponents .binary64 sign 0 0) ≠ -1#11
    rw [unpackExponent_packComponents]
    decide
  | finite sign mantissa exponent hm =>
    have hlt : exponent + 1075 < 2047 := h
    have hsmall : ¬ 2 ^ 11 ≤ (exponent + 1075).toNat + 1 := by omega
    unfold pack
    simp only [add_bias, if_neg hsmall]
    -- the exponent is stored if the mantissa has its leading bit, and otherwise zero is
    split
    · rw [unpackExponent_packComponents]
      intro hset
      have hmod : (exponent + 1075).toNat % 2048 = 2047 := congrArg BitVec.toNat hset
      omega
    · rw [unpackExponent_packComponents]
      decide

theorem isFinite_unpack (h : unpackExponent b ≠ -1#11) : (unpack .binary64 b).isFinite = true := by
  unfold unpack
  rw [if_neg h]
  by_cases hclear : unpackExponent b = 0#11
  · rw [if_pos hclear]
    by_cases hzero : unpackMantissa b = 0#52
    · rw [dif_pos hzero]
      rfl
    · rw [dif_neg hzero]
      rfl
  · rw [if_neg hclear]
    rfl

/-- A finite number that is taken apart stays finite. -/
theorem staysFinite_unpack (h : (unpack .binary64 b).isFinite = true) :
    StaysFinite (unpack .binary64 b) := by
  unfold unpack at h ⊢
  by_cases hset : unpackExponent b = -1#11
  · rw [if_pos hset] at h
    split at h <;> exact Bool.noConfusion h
  by_cases hclear : unpackExponent b = 0#11
  · rw [if_neg hset, if_pos hclear]
    by_cases hzero : unpackMantissa b = 0#52
    · rw [dif_pos hzero]
      trivial
    · rw [dif_neg hzero]
      show _ - _ + 1 + 1075 < (2047 : Int)
      rw [hclear, bias_eq]
      decide
  · have hle : (unpackExponent b).toNat < 2048 := (unpackExponent b).isLt
    have hne : (unpackExponent b).toNat ≠ 2047 := fun h' => hset (BitVec.eq_of_toNat_eq h')
    have hlt : (unpackExponent b).toNat < 2047 := by omega
    rw [if_neg hset, if_neg hclear]
    show _ - _ + 1075 < (2047 : Int)
    rw [bias_eq, Int.sub_add_cancel]
    exact Int.ofNat_lt.mpr hlt

theorem isFinite_neg {x : Float} (h : x.isFinite = true) : (-x).isFinite = true :=
  isFinite_unpack (staysFinite_unpack h).neg.unpackExponent_pack

end LoanPricing.Decimal
