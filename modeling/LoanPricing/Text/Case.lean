/-!
# Letter case — comparison of tags and names

Tags in a rules file, state names and product names are compared ignoring the case of the
letters `A` to `Z` and of no other character, so `ſ` never stands for `s`, nor `İ` for `i`.
-/

namespace LoanPricing.Text

/-- The text with the letters `A` to `Z` in small and every other character as it was. -/
def lower (s : String) : String :=
  s.map Char.toLower

/-- Equality that ignores the case of the letters `A` to `Z`. -/
def sameIgnoringCase (a b : String) : Bool :=
  lower a == lower b

@[simp] theorem toList_lower (s : String) : (lower s).toList = s.toList.map Char.toLower := by
  simp [lower]

-- Characters other than `A` to `Z` are their own small forms.
theorem toLower_of_not_capital {c : Char} (h : ¬ ('A'.toNat ≤ c.toNat ∧ c.toNat ≤ 'Z'.toNat)) :
    c.toLower = c :=
  dif_neg h

theorem not_capital_toLower (c : Char) :
    ¬ ('A'.toNat ≤ c.toLower.toNat ∧ c.toLower.toNat ≤ 'Z'.toNat) := by
  by_cases h : 'A'.toNat ≤ c.toNat ∧ c.toNat ≤ 'Z'.toNat
  · have hval : c.toLower.val = c.val + 32 := congrArg Char.val (dif_pos h : c.toLower = _)
    have hsmall : c.toLower.toNat = c.toNat + 32 := by
      show c.toLower.val.toNat = c.val.toNat + 32
      rw [hval, UInt32.toNat_add]
      have hle : c.val.toNat ≤ 90 := h.2
      apply Nat.mod_eq_of_lt
      show c.val.toNat + 32 < 2 ^ 32
      omega
    have hge : 65 ≤ c.toNat := h.1
    intro hcapital
    have hle : c.toLower.toNat ≤ 90 := hcapital.2
    omega
  · rwa [toLower_of_not_capital h]

theorem lower_lower (s : String) : lower (lower s) = lower s := by
  apply String.ext
  rw [toList_lower, toList_lower, List.map_map]
  apply List.map_congr_left
  intro c _
  exact toLower_of_not_capital (not_capital_toLower c)

-- Two texts are the same ignoring case exactly if their small forms are equal.
theorem sameIgnoringCase_iff {a b : String} : sameIgnoringCase a b = true ↔ lower a = lower b := by
  simp [sameIgnoringCase]

-- Texts with one small form are the same ignoring case.
theorem sameIgnoringCase_of_lower {a b small : String} (ha : lower a = small)
    (hb : lower b = small) : sameIgnoringCase a b = true := by
  rw [sameIgnoringCase_iff, ha, hb]

theorem sameIgnoringCase_lower (a b : String) :
    sameIgnoringCase (lower a) b = sameIgnoringCase a b := by
  rw [sameIgnoringCase, sameIgnoringCase, lower_lower]

end LoanPricing.Text
