import LoanPricing.Json.Scalar
import LoanPricing.Proofs.Decimal.Magnitude

/-!
# Range of numbers — every number that is read is finite

However many digits a numeral has and however large its exponent is, either it is refused as too
large or what it is read as is finite. Products are looked at after the multiplication. Quotients
are not, but they are never larger than what is divided: all powers in the table beyond the first
are at least two.
-/

namespace LoanPricing.Json

open Decimal (isAtLeast_ofScientific isFinite_div isFinite_mul isFinite_neg isFinite_toFloat)

/-! ## 1. Scaling -/

theorem isFinite_powerOfTen {exponent : Nat} (hle : exponent ≤ tableEnd) :
    (powerOfTen exponent).isFinite = true := by
  rcases Nat.eq_zero_or_pos exponent with rfl | hpos
  · decide +kernel
  · exact (isAtLeast_ofScientific hpos hle).isFinite

theorem isFinite_significandToFloat (significand : Nat) :
    (significandToFloat significand).isFinite = true :=
  isFinite_toFloat _

theorem isFinite_divideByPower {x : Float} {exponent : Nat} (hx : x.isFinite = true)
    (hexponent : 0 < exponent) : (divideByPower x exponent).isFinite = true := by
  have hstep : ∀ {x : Float} {exponent : Nat}, x.isFinite = true → 0 < exponent →
      exponent ≤ tableEnd → (x / powerOfTen exponent).isFinite = true := by
    intro x exponent hx hpos hle
    exact isFinite_div hx (isAtLeast_ofScientific hpos hle)
  fun_induction divideByPower x exponent with
  | case1 x exponent hle => exact hstep hx hexponent hle
  | case2 x exponent hlt hzero => exact hx
  | case3 x exponent hlt hzero ih =>
    exact ih (hstep hx (by decide) (Nat.le_refl tableEnd)) (by omega)

theorem isFinite_of_scale? {significand : Nat} {exponent : Int} {x : Float}
    (h : scale? significand exponent = some x) : x.isFinite = true := by
  have hsignificand := isFinite_significandToFloat significand
  unfold scale? at h
  simp only at h
  split at h
  · rw [← Option.some.inj h]
    exact isFinite_divideByPower hsignificand (by omega)
  split at h
  · rename_i hle
    split at h
    · injection h
    · rename_i hinf
      rw [← Option.some.inj h]
      exact isFinite_mul hsignificand (isFinite_powerOfTen hle) (Bool.eq_false_iff.mpr hinf)
  split at h
  · rw [← Option.some.inj h]
    exact hsignificand
  · injection h

theorem isFinite_withSign {x : Float} (negative : Bool) (hx : x.isFinite = true) :
    (withSign negative x).isFinite = true := by
  cases negative with
  | false => exact hx
  | true => exact isFinite_neg hx

/-! ## 2. Reading -/

theorem isFinite_of_finish {negative : Bool} {d : Digits} {cs rest : List Char} {x : Float}
    (h : d.finish negative cs = .ok (x, rest)) : x.isFinite = true := by
  unfold Digits.finish at h
  split at h
  · rename_i y hscale
    obtain ⟨rfl, -⟩ := Prod.mk.inj (Except.ok.inj h)
    exact isFinite_withSign negative (isFinite_of_scale? hscale)
  · injection h

theorem isFinite_of_readExponent {negative : Bool} {d : Digits} {cs rest : List Char} {x : Float}
    (h : readExponent negative d cs = .ok (x, rest)) : x.isFinite = true := by
  unfold readExponent at h
  simp only at h
  split at h
  · injection h
  split at h
  · injection h
  split at h
  · exact isFinite_of_finish h
  -- an exponent that is not even read to its end leaves zero, or is refused
  split at h
  · injection h
  · obtain ⟨rfl, -⟩ := Prod.mk.inj (Except.ok.inj h)
    exact isFinite_withSign negative (by decide)

theorem isFinite_of_readExponentIfAny {negative : Bool} {d : Digits} {cs rest : List Char}
    {x : Float} (h : readExponentIfAny negative d cs = .ok (x, rest)) : x.isFinite = true := by
  unfold readExponentIfAny at h
  split at h
  · exact isFinite_of_readExponent h
  · exact isFinite_of_readExponent h
  · exact isFinite_of_finish h

theorem isFinite_of_readDoubleTail {negative : Bool} {d : Digits} {cs rest : List Char} {x : Float}
    (h : readDoubleTail negative d cs = .ok (x, rest)) : x.isFinite = true := by
  unfold readDoubleTail at h
  split at h
  · unfold readFraction at h
    split at h
    · injection h
    split at h
    · exact isFinite_of_readExponentIfAny h
    · injection h
  · exact isFinite_of_readExponentIfAny h

theorem isFinite_toFloat_whole (n : Int) : (Number.whole n).toFloat.isFinite = true := by
  unfold Number.toFloat
  simp only
  split
  · exact isFinite_neg (isFinite_significandToFloat _)
  · exact isFinite_significandToFloat _

theorem isFinite_of_map_double {result : Reading Float} {n : Number} {rest : List Char}
    (hresult : ∀ {x after}, result = .ok (x, after) → x.isFinite = true)
    (h : (result.map fun (x, after) => (Number.double x, after)) = .ok (n, rest)) :
    n.toFloat.isFinite = true := by
  obtain ⟨x, hx, rfl⟩ := length_of_map_ok h
  exact hresult hx

theorem isFinite_of_readNumberTail {negative : Bool} {significand : Nat} {cs rest : List Char}
    {n : Number} (h : readNumberTail negative significand cs = .ok (n, rest)) :
    n.toFloat.isFinite = true := by
  unfold readNumberTail at h
  split at h
  · exact isFinite_of_map_double isFinite_of_readDoubleTail h
  split at h
  · obtain ⟨rfl, -⟩ := Prod.mk.inj (Except.ok.inj h)
    exact isFinite_toFloat_whole _
  split at h
  · obtain ⟨rfl, -⟩ := Prod.mk.inj (Except.ok.inj h)
    exact isFinite_toFloat_whole _
  · obtain ⟨rfl, -⟩ := Prod.mk.inj (Except.ok.inj h)
    exact isFinite_neg (isFinite_significandToFloat _)

theorem isFinite_of_readDigits {negative : Bool} {significand : Nat} {cs rest : List Char}
    {n : Number} (h : readDigits negative significand cs = .ok (n, rest)) :
    n.toFloat.isFinite = true := by
  induction cs generalizing significand with
  | nil => exact isFinite_of_readNumberTail h
  | cons c cs ih =>
    simp only [readDigits] at h
    split at h
    · exact isFinite_of_readNumberTail h
    split at h
    · exact isFinite_of_map_double isFinite_of_readDoubleTail h
    · exact ih h

theorem isFinite_of_readMagnitude {negative : Bool} {cs rest : List Char} {n : Number}
    (h : readMagnitude negative cs = .ok (n, rest)) : n.toFloat.isFinite = true := by
  unfold readMagnitude at h
  split at h
  · injection h
  · split at h
    · split at h
      · injection h
      · exact isFinite_of_readNumberTail h
    · exact isFinite_of_readNumberTail h
  · split at h
    · exact isFinite_of_readDigits h
    · injection h

/-- Every number that is read is finite as a double. -/
theorem isFinite_of_readNumber {cs rest : List Char} {n : Number}
    (h : readNumber cs = .ok (n, rest)) : n.toFloat.isFinite = true := by
  unfold readNumber at h
  split at h
  · exact isFinite_of_readMagnitude h
  · exact isFinite_of_readMagnitude h

theorem isFinite_of_readFloat {cs rest : List Char} {x : Float} (h : readFloat cs = .ok (x, rest)) :
    x.isFinite = true := by
  unfold readFloat at h
  split at h
  · obtain ⟨n, hn, rfl⟩ := length_of_map_ok h
    exact isFinite_of_readNumber hn
  · injection h

end LoanPricing.Json
