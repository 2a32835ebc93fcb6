import LoanPricing.Proofs.Json.Extent

/-!
# String bodies — what stands between two quotes

A body is made of plain characters and escapes. Where the text of a string is wanted, every escape
stands for a character, and the body *spells* a text. A string that is skipped may also have halves
of surrogate pairs in it. Either reader takes exactly one body off the front of a text.
-/

namespace LoanPricing.Json

/-! ## 1. Escapes -/

/-- Four hexadecimal digits and the number that they spell. -/
def IsHex4 (digits : List Char) (n : Nat) : Prop :=
  digits.length = 4 ∧ Text.natOn? 16 Text.hexDigit? 0 digits = some n

/-- An escape without its backslash, and the character that it stands for. -/
inductive IsEscape : List Char → Char → Prop
  | short {letter c : Char} (h : shortEscape? letter = some c) : IsEscape [letter] c
  | unit {digits : List Char} {n : Nat} (h : IsHex4 digits n) (hlow : isLowSurrogate n = false)
      (hhigh : isHighSurrogate n = false) : IsEscape ('u' :: digits) (Char.ofNat n)
  | pair {first second : List Char} {high low : Nat} (hfirst : IsHex4 first high)
      (hhigh : isHighSurrogate high = true) (hsecond : IsHex4 second low)
      (hlow : isLowSurrogate low = true) :
      IsEscape ('u' :: (first ++ '\\' :: 'u' :: second)) (pairedChar high low)

/-- An escape without its backslash, if nobody asks for its character. -/
inductive IsEscapeForm : List Char → Prop
  | short {letter c : Char} (h : shortEscape? letter = some c) : IsEscapeForm [letter]
  | unit {digits : List Char} {n : Nat} (h : IsHex4 digits n) : IsEscapeForm ('u' :: digits)

theorem exists_eq_of_length_eq_four {α : Type} {l : List α} (h : l.length = 4) :
    ∃ a b c d, l = [a, b, c, d] := by
  obtain ⟨a, tail, rfl⟩ := List.exists_cons_of_length_eq_add_one h
  obtain ⟨b, tail, rfl⟩ := List.exists_cons_of_length_eq_add_one (Nat.succ.inj h)
  obtain ⟨c, tail, rfl⟩ := List.exists_cons_of_length_eq_add_one (Nat.succ.inj (Nat.succ.inj h))
  obtain ⟨d, tail, rfl⟩ :=
    List.exists_cons_of_length_eq_add_one (Nat.succ.inj (Nat.succ.inj (Nat.succ.inj h)))
  obtain rfl : tail = [] :=
    List.eq_nil_of_length_eq_zero (Nat.succ.inj (Nat.succ.inj (Nat.succ.inj (Nat.succ.inj h))))
  exact ⟨a, b, c, d, rfl⟩

theorem readHex4_eq_ok {cs rest : List Char} {n : Nat} :
    readHex4 cs = .ok (n, rest) ↔ ∃ digits, IsHex4 digits n ∧ cs = digits ++ rest := by
  rw [readHex4_eq_ok_iff]
  constructor
  · rintro ⟨a, b, c, d, rfl, a', b', c', d', ha, hb, hc, hd, rfl⟩
    refine ⟨[a, b, c, d], ⟨rfl, ?_⟩, rfl⟩
    simp only [Text.natOn?, ha, hb, hc, hd, Nat.zero_mul, Nat.zero_add]
  · rintro ⟨digits, ⟨hlength, hvalue⟩, rfl⟩
    obtain ⟨a, b, c, d, rfl⟩ := exists_eq_of_length_eq_four hlength
    refine ⟨a, b, c, d, rfl, ?_⟩
    simp only [Text.natOn?, Nat.zero_mul, Nat.zero_add] at hvalue
    cases ha : Text.hexDigit? a with
    | none => simp [ha] at hvalue
    | some a' =>
    cases hb : Text.hexDigit? b with
    | none => simp [ha, hb] at hvalue
    | some b' =>
    cases hc : Text.hexDigit? c with
    | none => simp [ha, hb, hc] at hvalue
    | some c' =>
    cases hd : Text.hexDigit? d with
    | none => simp [ha, hb, hc, hd] at hvalue
    | some d' =>
      simp only [ha, hb, hc, hd, Option.some.injEq] at hvalue
      exact ⟨a', b', c', d', rfl, rfl, rfl, rfl, hvalue.symm⟩

theorem readHex4_append {digits : List Char} {n : Nat} (h : IsHex4 digits n) (rest : List Char) :
    readHex4 (digits ++ rest) = .ok (n, rest) :=
  readHex4_eq_ok.mpr ⟨digits, h, rfl⟩

theorem readLowSurrogate_eq_ok {high : Nat} {cs rest : List Char} {c : Char} :
    readLowSurrogate high cs = .ok (c, rest) ↔
      ∃ digits low, IsHex4 digits low ∧ isLowSurrogate low = true ∧ c = pairedChar high low ∧
        cs = '\\' :: 'u' :: (digits ++ rest) := by
  constructor
  · intro h
    unfold readLowSurrogate at h
    split at h
    · simp at h
    · simp at h
    · rename_i tail
      rcases hhex : readHex4 tail with f | ⟨low, after⟩
      · simp [hhex] at h
      simp only [hhex] at h
      split at h
      · rename_i hlow
        simp only [Except.ok.injEq, Prod.mk.injEq] at h
        obtain ⟨rfl, rfl⟩ := h
        obtain ⟨digits, hdigits, rfl⟩ := readHex4_eq_ok.mp hhex
        exact ⟨digits, low, hdigits, hlow, rfl, rfl⟩
      · simp at h
    · simp at h
    · simp at h
  · rintro ⟨digits, low, hdigits, hlow, hc, rfl⟩
    rw [readLowSurrogate, readHex4_append hdigits, hc]
    simp only [hlow, if_true]

-- No short escape is written with the letter of the long ones.
theorem ne_u_of_shortEscape? {letter c : Char} (h : shortEscape? letter = some c) :
    letter ≠ 'u' := by
  rintro rfl
  simp [shortEscape?] at h

theorem readEscape_eq_ok {cs rest : List Char} {c : Char} :
    readEscape cs = .ok (c, rest) ↔ ∃ e, IsEscape e c ∧ cs = e ++ rest := by
  constructor
  · intro h
    unfold readEscape at h
    split at h
    · simp at h
    · rename_i tail
      unfold readUnicodeEscape at h
      rcases hhex : readHex4 tail with f | ⟨unit, after⟩
      · simp [hhex] at h
      obtain ⟨digits, hdigits, rfl⟩ := readHex4_eq_ok.mp hhex
      simp only [hhex] at h
      by_cases hlow : isLowSurrogate unit = true
      · simp [hlow] at h
      rw [if_neg hlow] at h
      by_cases hhigh : isHighSurrogate unit = true
      · rw [if_pos hhigh] at h
        obtain ⟨second, low, hsecond, hlow', hc, rfl⟩ := readLowSurrogate_eq_ok.mp h
        rw [hc]
        refine ⟨_, .pair hdigits hhigh hsecond hlow', ?_⟩
        simp only [List.cons_append, List.append_assoc]
      · rw [if_neg hhigh] at h
        simp only [Except.ok.injEq, Prod.mk.injEq] at h
        obtain ⟨rfl, rfl⟩ := h
        exact ⟨_, .unit hdigits (Bool.eq_false_iff.mpr hlow) (Bool.eq_false_iff.mpr hhigh), rfl⟩
    · rename_i letter tail hletter
      cases hshort : shortEscape? letter with
      | none => simp [hshort] at h
      | some e =>
        simp only [hshort, Except.ok.injEq, Prod.mk.injEq] at h
        obtain ⟨rfl, rfl⟩ := h
        exact ⟨_, .short hshort, rfl⟩
  · rintro ⟨e, he, rfl⟩
    cases he with
    | short hshort =>
      rw [List.singleton_append, readEscape]
      · simp only [hshort]
      · exact ne_u_of_shortEscape? hshort
    | unit hdigits hlow hhigh =>
      rw [List.cons_append, readEscape, readUnicodeEscape, readHex4_append hdigits]
      simp only [hlow, hhigh, Bool.false_eq_true, if_false]
    | pair hfirst hhigh hsecond hlow =>
      rename_i first second high low
      have hhalf : isLowSurrogate high = false := by
        simp only [isHighSurrogate, isLowSurrogate, Bool.and_eq_true, decide_eq_true_eq,
          Bool.and_eq_false_iff, decide_eq_false_iff_not] at hhigh ⊢
        omega
      rw [List.cons_append, List.append_assoc, readEscape, readUnicodeEscape,
        readHex4_append hfirst]
      simp only [hhalf, hhigh, Bool.false_eq_true, if_false, if_true]
      exact readLowSurrogate_eq_ok.mpr ⟨second, low, hsecond, hlow, rfl, rfl⟩

theorem skipEscape_eq_ok {cs rest : List Char} :
    skipEscape cs = .ok rest ↔ ∃ e, IsEscapeForm e ∧ cs = e ++ rest := by
  constructor
  · intro h
    unfold skipEscape at h
    split at h
    · simp at h
    · rename_i tail
      rcases hhex : readHex4 tail with f | ⟨unit, after⟩
      · simp [hhex, Except.map] at h
      obtain ⟨digits, hdigits, rfl⟩ := readHex4_eq_ok.mp hhex
      simp only [hhex, Except.map, Except.ok.injEq] at h
      subst h
      exact ⟨_, .unit hdigits, rfl⟩
    · rename_i letter tail hletter
      cases hshort : shortEscape? letter with
      | none => simp [hshort] at h
      | some e =>
        simp only [hshort, Except.ok.injEq] at h
        subst h
        exact ⟨_, .short hshort, rfl⟩
  · rintro ⟨e, he, rfl⟩
    cases he with
    | short hshort =>
      rw [List.singleton_append, skipEscape]
      · simp only [hshort]
      · exact ne_u_of_shortEscape? hshort
    | unit hdigits =>
      rw [List.cons_append, skipEscape, readHex4_append hdigits]
      rfl

/-! ## 2. Bodies -/

/-- A character that stands for itself in a string. -/
def IsPlain (c : Char) : Prop :=
  c ≠ '"' ∧ c ≠ '\\' ∧ 0x20 ≤ c.toNat

instance (c : Char) : Decidable (IsPlain c) :=
  inferInstanceAs (Decidable (c ≠ '"' ∧ c ≠ '\\' ∧ 0x20 ≤ c.toNat))

/-- A text that can stand in a string as it is. -/
def IsPlainText (text : List Char) : Prop :=
  ∀ c ∈ text, IsPlain c

instance (text : List Char) : Decidable (IsPlainText text) :=
  List.decidableBAll IsPlain text

/-- The body of a string, and the text that it spells. -/
inductive Spells : List Char → List Char → Prop
  | nil : Spells [] []
  | plain {c : Char} {body text : List Char} (hc : IsPlain c) (h : Spells body text) :
      Spells (c :: body) (c :: text)
  | escape {e : List Char} {c : Char} {body text : List Char} (he : IsEscape e c)
      (h : Spells body text) : Spells ('\\' :: (e ++ body)) (c :: text)

/-- The body of a string whose text nobody asks for. -/
inductive IsBody : List Char → Prop
  | nil : IsBody []
  | plain {c : Char} {body : List Char} (hc : IsPlain c) (h : IsBody body) : IsBody (c :: body)
  | escape {e body : List Char} (he : IsEscapeForm e) (h : IsBody body) :
      IsBody ('\\' :: (e ++ body))

/-- A body that spells a text is one for skipping too: a pair is one half after the other. -/
theorem Spells.isBody {body text : List Char} (h : Spells body text) : IsBody body := by
  induction h with
  | nil => exact .nil
  | plain hc _ ih => exact .plain hc ih
  | escape he _ ih =>
    cases he with
    | short hshort => exact .escape (.short hshort) ih
    | unit hdigits => exact .escape (.unit hdigits) ih
    | pair hfirst hhigh hsecond hlow =>
      have hsecond' := IsBody.escape (.unit hsecond) ih
      have hboth := IsBody.escape (.unit hfirst) hsecond'
      simpa only [List.cons_append, List.append_assoc] using hboth

theorem Spells.append {body text body' text' : List Char} (h : Spells body text)
    (h' : Spells body' text') : Spells (body ++ body') (text ++ text') := by
  induction h with
  | nil => exact h'
  | plain hc _ ih => exact .plain hc ih
  | escape he _ ih =>
    rw [List.cons_append, List.append_assoc]
    exact .escape he ih

theorem readStringTail_append {body text : List Char} (h : Spells body text) (rest : List Char) :
    readStringTail (body ++ '"' :: rest) = .ok (text, rest) := by
  induction h with
  | nil => rw [List.nil_append, readStringTail]
  | plain hc _ ih =>
    rw [List.cons_append, readStringTail_plain hc.1 hc.2.1 (Nat.not_lt.mpr hc.2.2), ih]
    rfl
  | escape he _ ih =>
    rw [List.cons_append, List.append_assoc,
      readStringTail_escape (readEscape_eq_ok.mpr ⟨_, he, rfl⟩), ih]
    rfl

theorem skipStringTail_append {body : List Char} (h : IsBody body) (rest : List Char) :
    skipStringTail (body ++ '"' :: rest) = .ok rest := by
  induction h with
  | nil => rw [List.nil_append, skipStringTail]
  | plain hc _ ih =>
    rw [List.cons_append, skipStringTail_plain hc.1 hc.2.1 (Nat.not_lt.mpr hc.2.2), ih]
  | escape he _ ih =>
    rw [List.cons_append, List.append_assoc,
      skipStringTail_escape (skipEscape_eq_ok.mpr ⟨_, he, rfl⟩), ih]

theorem exists_spells_of_readStringTail {cs rest text : List Char}
    (h : readStringTail cs = .ok (text, rest)) :
    ∃ body, Spells body text ∧ cs = body ++ '"' :: rest := by
  fun_induction readStringTail cs generalizing text rest with
  | case1 => simp at h
  | case2 cs =>
    simp only [Except.ok.injEq, Prod.mk.injEq] at h
    obtain ⟨rfl, rfl⟩ := h
    exact ⟨[], .nil, rfl⟩
  | case3 => simp at h
  | case4 cs c after hescape ih =>
    obtain ⟨text', htext, rfl⟩ := length_of_map_ok h
    obtain ⟨body, hbody, rfl⟩ := ih htext
    obtain ⟨e, he, rfl⟩ := readEscape_eq_ok.mp hescape
    exact ⟨_, .escape he hbody, by rw [List.cons_append, List.append_assoc]⟩
  | case5 => simp at h
  | case6 c cs hquote hslash hcontrol ih =>
    obtain ⟨text', htext, rfl⟩ := length_of_map_ok h
    obtain ⟨body, hbody, rfl⟩ := ih htext
    exact ⟨_, .plain ⟨hquote, hslash, Nat.not_lt.mp hcontrol⟩ hbody, rfl⟩

/-- A body that is read for its text is read to its end, and spells the text. -/
theorem readStringTail_body {body rest text after : List Char} (hbody : IsBody body) :
    readStringTail (body ++ '"' :: rest) = .ok (text, after) ↔ Spells body text ∧ after = rest := by
  constructor
  · intro h
    obtain ⟨spelled, hspelled, heq⟩ := exists_spells_of_readStringTail h
    -- a string that is skipped ends at one place only
    have hskip := skipStringTail_append hbody rest
    rw [heq, skipStringTail_append hspelled.isBody, Except.ok.injEq] at hskip
    subst hskip
    rw [List.append_cancel_right heq]
    exact ⟨hspelled, rfl⟩
  · rintro ⟨hspells, rfl⟩
    exact readStringTail_append hspells _

end LoanPricing.Json
