import LoanPricing.Decimal.Layout

/-!
# Characters of numbers — what can stand in the text of a number

Plain texts of numbers are made of digits, a minus sign, a point and the letters of `NaN` and `inf`.
So a text around a number can be searched for other characters without knowing the number.
-/

namespace LoanPricing.Decimal

/-- The characters in plain texts of numbers. -/
def isPlainCharacter (c : Char) : Bool :=
  c.isDigit || ['-', '.', 'N', 'a', 'i', 'n', 'f'].contains c

theorem isPlainCharacter_of_isDigit {c : Char} (h : c.isDigit = true) :
    isPlainCharacter c = true := by
  rw [isPlainCharacter, h, Bool.true_or]

theorem mem_ofNat {c : Char} {n : Nat} (h : c ∈ Text.ofNat n) : c.isDigit = true :=
  Nat.isDigit_of_mem_toDigits (by decide) (by decide) h

theorem mem_positional {c : Char} {d : Numeral} (h : c ∈ d.positional []) :
    c = '.' ∨ c.isDigit = true := by
  have hzeros : ∀ {n : Nat}, c ∈ List.replicate n '0' → c.isDigit = true := by
    intro n hc
    rw [List.eq_of_mem_replicate hc]
    rfl
  unfold Numeral.positional at h
  simp only [List.append_nil] at h
  -- zeros stand behind the digits, between point and digits, or nowhere
  split at h
  · rcases List.mem_append.mp h with h | h
    · exact .inr (mem_ofNat h)
    · exact .inr (hzeros h)
  split at h
  · rcases List.mem_cons.mp h with h | h
    · exact .inr (h ▸ rfl)
    rcases List.mem_cons.mp h with h | h
    · exact .inl h
    rcases List.mem_append.mp h with h | h
    · exact .inr (hzeros h)
    · exact .inr (mem_ofNat h)
  · rcases List.mem_append.mp h with h | h
    · exact .inr (mem_ofNat (List.mem_of_mem_take h))
    rcases List.mem_cons.mp h with h | h
    · exact .inl h
    · exact .inr (mem_ofNat (List.mem_of_mem_drop h))

theorem mem_signed {c : Char} {x : Float} {magnitude : List Char} (h : c ∈ signed x magnitude) :
    c = '-' ∨ c ∈ magnitude := by
  unfold signed at h
  split at h
  · exact List.mem_cons.mp h
  · exact .inr h

/-- The plain text of a number has plain characters only. -/
theorem mem_plain {c : Char} {x : Float} (h : c ∈ plain x) : isPlainCharacter c = true := by
  have hsign : isPlainCharacter '-' = true := by decide
  unfold plain at h
  split at h
  · rcases mem_signed h with h | h
    · rw [h, hsign]
    rcases mem_positional h with h | h
    · rw [h]; decide
    · exact isPlainCharacter_of_isDigit h
  unfold nonFinite at h
  split at h
  · exact List.all_eq_true.mp (by decide : ['N', 'a', 'N'].all isPlainCharacter = true) c h
  · rcases mem_signed h with h | h
    · rw [h, hsign]
    · exact List.all_eq_true.mp (by decide : ['i', 'n', 'f'].all isPlainCharacter = true) c h

end LoanPricing.Decimal
