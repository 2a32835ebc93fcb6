import LoanPricing.Proofs.Json.Extent

/-!
# Extents of numbers — one character ahead

A number does not say where it ends, so its reader always looks at the character behind it, and at
no other one: whatever is gathered into the number depends on the characters of the number only.
-/

namespace LoanPricing.Json

open Text (digit? isDigit)

/-! ## 1. Exponents -/

-- The gathered digits make the same number whatever follows them.
theorem finish_ok {negative : Bool} {d : Digits} {cs rest : List Char} {x : Float}
    (h : d.finish negative cs = .ok (x, rest)) :
    cs = rest ∧ ∀ ys, d.finish negative ys = .ok (x, ys) := by
  unfold Digits.finish at h ⊢
  cases hscale : scale? d.significand d.exponent with
  | none => simp [hscale] at h
  | some y =>
    simp only [hscale, Except.ok.injEq, Prod.mk.injEq] at h
    obtain ⟨rfl, rfl⟩ := h
    exact ⟨rfl, fun ys => rfl⟩

-- An exponent that is gathered to its end.
theorem gatherExponent_endsAhead {acc e : Nat} {cs rest : List Char}
    (h : gatherExponent acc cs = (some e, rest)) :
    EndsAhead (fun xs ys => gatherExponent acc xs = (some e, ys)) cs rest := by
  induction cs generalizing acc with
  | nil =>
    obtain rfl := (Prod.mk.inj h).2
    exact .refl_nil h
  | cons c cs ih =>
    rw [gatherExponent] at h
    cases hdigit : digit? c with
    | none =>
      simp only [hdigit, Prod.mk.injEq] at h
      obtain ⟨hacc, rfl⟩ := h
      refine .refl_cons fun ys => ?_
      simp only [gatherExponent, hdigit, hacc]
    | some digit =>
      simp only [hdigit] at h
      by_cases hnext : acc * 10 + digit < 0x80000000
      · rw [if_pos hnext] at h
        refine (ih h).cons fun hL => ?_
        simp only [gatherExponent, hdigit]
        rw [if_pos hnext, hL]
      · rw [if_neg hnext] at h
        injection h with hnone
        injection hnone

-- An exponent that is too large is left where this is known.
theorem gatherExponent_ends {acc : Nat} {cs rest : List Char}
    (h : gatherExponent acc cs = (none, rest)) :
    Ends (fun xs ys => gatherExponent acc xs = (none, ys)) cs rest := by
  induction cs generalizing acc with
  | nil => simp [gatherExponent] at h
  | cons c cs ih =>
    rw [gatherExponent] at h
    cases hdigit : digit? c with
    | none => simp [hdigit] at h
    | some digit =>
      simp only [hdigit] at h
      by_cases hnext : acc * 10 + digit < 0x80000000
      · rw [if_pos hnext] at h
        refine (ih h).cons fun hL => ?_
        simp only [gatherExponent, hdigit]
        rw [if_pos hnext, hL]
      · rw [if_neg hnext] at h
        obtain rfl := (Prod.mk.inj h).2
        refine ⟨[c], rfl, fun ys => ?_⟩
        show gatherExponent acc (c :: ys) = (none, ys)
        simp only [gatherExponent, hdigit]
        rw [if_neg hnext]

theorem exponentSign_endsAhead (cs : List Char) :
    EndsAhead (fun xs ys => exponentSign xs = ((exponentSign cs).1, ys)) cs (exponentSign cs).2 := by
  rcases cs with _ | ⟨c, cs⟩
  · exact .refl_nil rfl
  by_cases hplus : c = '+'
  · subst hplus
    exact Ends.ahead ⟨['+'], rfl, fun ys => rfl⟩
  by_cases hminus : c = '-'
  · subst hminus
    exact Ends.ahead ⟨['-'], rfl, fun ys => rfl⟩
  · have hsign : ∀ ys, exponentSign (c :: ys) = (false, c :: ys) := by
      intro ys
      rw [exponentSign]
      · simp [hplus]
      · simp [hminus]
    rw [hsign cs]
    exact .refl_cons hsign

theorem dropDigits_endsAhead (cs : List Char) :
    EndsAhead (fun xs ys => xs.dropWhile isDigit = ys) cs (cs.dropWhile isDigit) :=
  (endsAhead_span isDigit cs).imp fun h => h.2

section

variable {negative down : Bool} {d : Digits} {cs tail rest : List Char} {c : Char} {first : Nat}

theorem readExponent_of_some {e : Nat} (hsign : exponentSign cs = (down, c :: tail))
    (hdigit : digit? c = some first) (hgather : gatherExponent first tail = (some e, rest)) :
    readExponent negative d cs =
      { d with exponent := if down then d.exponent - e else d.exponent + e }.finish negative
        rest := by
  simp only [readExponent, hsign, hdigit, hgather]

theorem readExponent_of_none (hsign : exponentSign cs = (down, c :: tail))
    (hdigit : digit? c = some first) (hgather : gatherExponent first tail = (none, rest))
    (hsmall : ¬ (d.significand ≠ 0 ∧ ¬ down)) :
    readExponent negative d cs = .ok (withSign negative 0.0, rest.dropWhile isDigit) := by
  simp only [readExponent, hsign, hdigit, hgather]
  rw [if_neg hsmall]

end

theorem readExponent_endsAhead {negative : Bool} {d : Digits} {cs rest : List Char} {x : Float}
    (h : readExponent negative d cs = .ok (x, rest)) :
    EndsAhead (fun xs ys => readExponent negative d xs = .ok (x, ys)) cs rest := by
  have hpiece := exponentSign_endsAhead cs
  rcases hsign : exponentSign cs with ⟨down, _ | ⟨c, tail⟩⟩
  · simp [readExponent, hsign] at h
  rw [hsign] at hpiece
  cases hdigit : digit? c with
  | none => simp [readExponent, hsign, hdigit] at h
  | some first =>
    -- the first digit belongs to what the sign leaves, so that the sign need not look ahead
    have hstart : Ends (fun xs ys => exponentSign xs = (down, c :: ys)) cs tail :=
      hpiece.snoc fun hL => hL
    rcases hgather : gatherExponent first tail with ⟨_ | e, after⟩
    · by_cases hlarge : d.significand ≠ 0 ∧ ¬ down
      · simp [readExponent, hsign, hdigit, hgather, hlarge] at h
      rw [readExponent_of_none hsign hdigit hgather hlarge, Except.ok.injEq, Prod.mk.injEq] at h
      obtain ⟨rfl, rfl⟩ := h
      have hrest : EndsAhead (fun xs ys => ∃ mid, gatherExponent first xs = (none, mid) ∧
          mid.dropWhile isDigit = ys) tail (after.dropWhile isDigit) :=
        (gatherExponent_ends hgather).ahead.comp (dropDigits_endsAhead after)
          fun hL hM => ⟨_, hL, hM⟩
      refine hstart.ahead.comp hrest fun hL hM => ?_
      obtain ⟨mid, hM, hdrop⟩ := hM
      rw [readExponent_of_none hL hdigit hM hlarge, hdrop]
    · rw [readExponent_of_some hsign hdigit hgather] at h
      obtain ⟨rfl, hfinish⟩ := finish_ok h
      refine hstart.ahead.comp (gatherExponent_endsAhead hgather) fun hL hM => ?_
      rw [readExponent_of_some hL hdigit hM, hfinish]

theorem readExponentIfAny_endsAhead {negative : Bool} {d : Digits} {cs rest : List Char} {x : Float}
    (h : readExponentIfAny negative d cs = .ok (x, rest)) :
    EndsAhead (fun xs ys => readExponentIfAny negative d xs = .ok (x, ys)) cs rest := by
  rcases cs with _ | ⟨c, cs⟩
  · obtain ⟨rfl, hfinish⟩ := finish_ok h
    exact .refl_nil (hfinish [])
  by_cases hsmall : c = 'e'
  · subst hsmall
    exact (readExponent_endsAhead h).cons fun hL => hL
  by_cases hlarge : c = 'E'
  · subst hlarge
    exact (readExponent_endsAhead h).cons fun hL => hL
  · have hplain : ∀ ys, readExponentIfAny negative d (c :: ys) = d.finish negative (c :: ys) := by
      intro ys
      rw [readExponentIfAny]
      · simp [hsmall]
      · simp [hlarge]
    rw [hplain] at h
    obtain ⟨rfl, hfinish⟩ := finish_ok h
    exact .refl_cons fun ys => (hplain ys).trans (hfinish (c :: ys))

/-! ## 2. Fractions -/

theorem gatherFraction_endsAhead {d d' : Digits} {cs rest : List Char}
    (h : gatherFraction d cs = (d', rest)) :
    EndsAhead (fun xs ys => gatherFraction d xs = (d', ys)) cs rest := by
  induction cs generalizing d with
  | nil =>
    obtain rfl := (Prod.mk.inj h).2
    exact .refl_nil h
  | cons c cs ih =>
    rw [gatherFraction] at h
    cases hdigit : digit? c with
    | none =>
      simp only [hdigit, Prod.mk.injEq] at h
      obtain ⟨hd, rfl⟩ := h
      refine .refl_cons fun ys => ?_
      simp only [gatherFraction, hdigit, hd]
    | some digit =>
      simp only [hdigit] at h
      by_cases hfull : d.isFull digit = true
      · rw [if_pos hfull, Prod.mk.injEq] at h
        obtain ⟨hd, rfl⟩ := h
        refine (dropDigits_endsAhead cs).cons fun hL => ?_
        simp only [gatherFraction, hdigit]
        rw [if_pos hfull, hL, hd]
      · rw [if_neg hfull] at h
        refine (ih h).cons fun hL => ?_
        simp only [gatherFraction, hdigit]
        rw [if_neg hfull, hL]

theorem readFraction_of_digit {negative : Bool} {d d' : Digits} {cs rest : List Char} {c : Char}
    (hdigit : isDigit c = true) (hgather : gatherFraction d (c :: cs) = (d', rest)) :
    readFraction negative d (c :: cs) = readExponentIfAny negative d' rest := by
  simp only [readFraction, hdigit, hgather, if_true]

theorem readFraction_endsAhead {negative : Bool} {d : Digits} {cs rest : List Char} {x : Float}
    (h : readFraction negative d cs = .ok (x, rest)) :
    EndsAhead (fun xs ys => readFraction negative d xs = .ok (x, ys)) cs rest := by
  rcases cs with _ | ⟨c, cs⟩
  · simp [readFraction] at h
  cases hdigit : isDigit c with
  | false => simp [readFraction, hdigit] at h
  | true =>
    rcases hgather : gatherFraction d (c :: cs) with ⟨d', after⟩
    rw [readFraction_of_digit hdigit hgather] at h
    refine (gatherFraction_endsAhead hgather).head.comp (readExponentIfAny_endsAhead h)
      fun hL hM => ?_
    obtain ⟨hhead, hL⟩ := hL
    obtain ⟨tail, rfl⟩ := List.head?_eq_some_iff.mp hhead
    rw [readFraction_of_digit hdigit hL, hM]

theorem readDoubleTail_of_head {negative : Bool} {d : Digits} {cs : List Char}
    (h : cs.head? ≠ some '.') : readDoubleTail negative d cs = readExponentIfAny negative d cs := by
  rw [readDoubleTail]
  rintro tail rfl
  exact h rfl

theorem readDoubleTail_endsAhead {negative : Bool} {d : Digits} {cs rest : List Char} {x : Float}
    (h : readDoubleTail negative d cs = .ok (x, rest)) :
    EndsAhead (fun xs ys => readDoubleTail negative d xs = .ok (x, ys)) cs rest := by
  refine EndsAhead.byHead (c := '.') ?_ ?_ id
    fun hpoint hL => (readDoubleTail_of_head hpoint).trans hL
  · rintro tail rfl
    exact readFraction_endsAhead h
  · intro hpoint
    exact readExponentIfAny_endsAhead ((readDoubleTail_of_head hpoint).symm.trans h)

/-! ## 3. Numbers -/

theorem goesOn_congr {xs ys : List Char} (h : xs.head? = ys.head?) : goesOn xs = goesOn ys := by
  rcases xs with _ | ⟨x, xs⟩
  · rw [List.head?_eq_none_iff.mp h.symm]
  · obtain ⟨tail, rfl⟩ := List.head?_eq_some_iff.mp h.symm
    unfold goesOn
    split <;> simp_all

/-- The number of a numeral without point and exponent. -/
def wholeNumber (negative : Bool) (significand : Nat) : Number :=
  if ¬ negative then .whole significand
  else if 0 < significand ∧ significand ≤ 0x8000000000000000 then .whole (-significand)
  else .double (-significandToFloat significand)

theorem readNumberTail_of_goesOn {negative : Bool} {significand : Nat} {cs : List Char}
    (h : goesOn cs = true) :
    readNumberTail negative significand cs =
      (readDoubleTail negative ⟨significand, 0⟩ cs).map fun (x, rest) => (.double x, rest) := by
  rw [readNumberTail, if_pos h]

theorem readNumberTail_of_not_goesOn {negative : Bool} {significand : Nat} {cs : List Char}
    (h : goesOn cs = false) :
    readNumberTail negative significand cs = .ok (wholeNumber negative significand, cs) := by
  rw [readNumberTail, h, wholeNumber]
  split
  · contradiction
  split
  · rfl
  · split <;> rfl

theorem readNumberTail_endsAhead {negative : Bool} {significand : Nat} {cs rest : List Char}
    {n : Number} (h : readNumberTail negative significand cs = .ok (n, rest)) :
    EndsAhead (fun xs ys => readNumberTail negative significand xs = .ok (n, ys)) cs rest := by
  cases hgo : goesOn cs with
  | true =>
    rw [readNumberTail_of_goesOn hgo] at h
    obtain ⟨x, hx, rfl⟩ := length_of_map_ok h
    refine (readDoubleTail_endsAhead hx).imp_head fun hhead hL => ?_
    rw [readNumberTail_of_goesOn ((goesOn_congr hhead).trans hgo), hL]
    rfl
  | false =>
    rw [readNumberTail_of_not_goesOn hgo, Except.ok.injEq, Prod.mk.injEq] at h
    obtain ⟨rfl, rfl⟩ := h
    exact .refl fun ys hys => readNumberTail_of_not_goesOn ((goesOn_congr hys).trans hgo)

theorem readDigits_endsAhead {negative : Bool} {significand : Nat} {cs rest : List Char}
    {n : Number} (h : readDigits negative significand cs = .ok (n, rest)) :
    EndsAhead (fun xs ys => readDigits negative significand xs = .ok (n, ys)) cs rest := by
  induction cs generalizing significand with
  | nil =>
    refine (readNumberTail_endsAhead h).imp_head fun hhead hL => ?_
    rw [List.head?_eq_none_iff.mp hhead] at hL ⊢
    exact hL
  | cons c cs ih =>
    cases hdigit : digit? c with
    | none =>
      simp only [readDigits, hdigit] at h
      refine (readNumberTail_endsAhead h).imp_head fun hhead hL => ?_
      obtain ⟨tail, rfl⟩ := List.head?_eq_some_iff.mp hhead
      simp only [readDigits, hdigit, hL]
    | some digit =>
      simp only [readDigits, hdigit] at h
      by_cases hfull : Digits.isFull ⟨significand, 0⟩ digit = true
      · -- the surplus digits only count, and are the same in the exchanged text
        rw [if_pos hfull] at h
        obtain ⟨x, hx, rfl⟩ := length_of_map_ok h
        refine (endsAhead_span isDigit (c :: cs)).head.comp (readDoubleTail_endsAhead hx)
          fun hL hM => ?_
        obtain ⟨hhead, htake, hdrop⟩ := hL
        obtain ⟨tail, rfl⟩ := List.head?_eq_some_iff.mp hhead
        simp only [readDigits, hdigit]
        rw [if_pos hfull, htake, hdrop, hM]
        rfl
      · rw [if_neg hfull] at h
        refine (ih h).cons fun hL => ?_
        simp only [readDigits, hdigit]
        rw [if_neg hfull, hL]

theorem readMagnitude_zero {negative : Bool} {cs : List Char}
    (h : ∀ c, cs.head? = some c → isDigit c = false) :
    readMagnitude negative ('0' :: cs) = readNumberTail negative 0 cs := by
  rcases cs with _ | ⟨c, cs⟩
  · rfl
  · simp [readMagnitude, h c rfl]

theorem readMagnitude_endsAhead {negative : Bool} {cs rest : List Char} {n : Number}
    (h : readMagnitude negative cs = .ok (n, rest)) :
    EndsAhead (fun xs ys => readMagnitude negative xs = .ok (n, ys)) cs rest := by
  rcases cs with _ | ⟨c, cs⟩
  · simp [readMagnitude] at h
  by_cases hzero : c = '0'
  · subst hzero
    -- a digit behind a leading zero is refused, and the exchange keeps what is behind the zero
    have hstop : ∀ c, cs.head? = some c → isDigit c = false := by
      intro c hc
      obtain ⟨tail, rfl⟩ := List.head?_eq_some_iff.mp hc
      cases hdigit : isDigit c with
      | false => rfl
      | true => simp [readMagnitude, hdigit] at h
    rw [readMagnitude_zero hstop] at h
    refine (readNumberTail_endsAhead h).cons_head fun hhead hL => ?_
    rw [readMagnitude_zero (by rw [hhead]; exact hstop), hL]
  · cases hdigit : digit? c with
    | none => simp [readMagnitude, hdigit] at h
    | some first =>
      have hdigits : ∀ ys, readMagnitude negative (c :: ys) = readDigits negative first ys := by
        intro ys
        simp [readMagnitude, hdigit]
      rw [hdigits] at h
      exact (readDigits_endsAhead h).cons fun hL => (hdigits _).trans hL

theorem readNumber_of_head {cs : List Char} (h : cs.head? ≠ some '-') :
    readNumber cs = readMagnitude false cs := by
  rw [readNumber]
  rintro tail rfl
  exact h rfl

theorem readNumber_endsAhead {cs rest : List Char} {n : Number}
    (h : readNumber cs = .ok (n, rest)) :
    EndsAhead (fun xs ys => readNumber xs = .ok (n, ys)) cs rest := by
  refine EndsAhead.byHead (c := '-') ?_ ?_ id
    fun hminus hL => (readNumber_of_head hminus).trans hL
  · rintro tail rfl
    exact readMagnitude_endsAhead h
  · intro hminus
    exact readMagnitude_endsAhead ((readNumber_of_head hminus).symm.trans h)

/-! ## 4. Numbers that are skipped -/

theorem skipExponent_of_digit {down : Bool} {cs tail : List Char} {c : Char}
    (hsign : exponentSign cs = (down, c :: tail)) (hdigit : isDigit c = true) :
    skipExponent cs = .ok (tail.dropWhile isDigit) := by
  simp only [skipExponent, hsign, hdigit, if_true]

theorem skipExponent_endsAhead {cs rest : List Char} (h : skipExponent cs = .ok rest) :
    EndsAhead (fun xs ys => skipExponent xs = .ok ys) cs rest := by
  have hpiece := exponentSign_endsAhead cs
  rcases hsign : exponentSign cs with ⟨down, _ | ⟨c, tail⟩⟩
  · simp [skipExponent, hsign] at h
  rw [hsign] at hpiece
  cases hdigit : isDigit c with
  | false => simp [skipExponent, hsign, hdigit] at h
  | true =>
    rw [skipExponent_of_digit hsign hdigit, Except.ok.injEq] at h
    subst h
    have hstart : Ends (fun xs ys => exponentSign xs = (down, c :: ys)) cs tail :=
      hpiece.snoc fun hL => hL
    refine hstart.ahead.comp (dropDigits_endsAhead tail) fun hL hM => ?_
    rw [skipExponent_of_digit hL hdigit, hM]

theorem skipExponentIfAny_endsAhead {cs rest : List Char} (h : skipExponentIfAny cs = .ok rest) :
    EndsAhead (fun xs ys => skipExponentIfAny xs = .ok ys) cs rest := by
  rcases cs with _ | ⟨c, cs⟩
  · obtain rfl := Except.ok.inj h
    exact .refl_nil rfl
  by_cases hsmall : c = 'e'
  · subst hsmall
    exact (skipExponent_endsAhead h).cons fun hL => hL
  by_cases hlarge : c = 'E'
  · subst hlarge
    exact (skipExponent_endsAhead h).cons fun hL => hL
  · have hplain : ∀ ys, skipExponentIfAny (c :: ys) = .ok (c :: ys) := by
      intro ys
      rw [skipExponentIfAny]
      · simp [hsmall]
      · simp [hlarge]
    rw [hplain, Except.ok.injEq] at h
    subst h
    exact .refl_cons hplain

theorem skipNumberTail_of_head {cs : List Char} (h : cs.head? ≠ some '.') :
    skipNumberTail cs = skipExponentIfAny cs := by
  rw [skipNumberTail]
  rintro tail rfl
  exact h rfl

theorem skipFraction_endsAhead {cs rest : List Char} (h : skipNumberTail ('.' :: cs) = .ok rest) :
    EndsAhead (fun xs ys => skipNumberTail ('.' :: xs) = .ok ys) cs rest := by
  rcases cs with _ | ⟨c, cs⟩
  · simp [skipNumberTail] at h
  cases hdigit : isDigit c with
  | false => simp [skipNumberTail, hdigit] at h
  | true =>
    have hfraction : ∀ ys, skipNumberTail ('.' :: c :: ys) =
        skipExponentIfAny (ys.dropWhile isDigit) := by
      intro ys
      simp [skipNumberTail, hdigit]
    rw [hfraction] at h
    have hpiece : EndsAhead (fun xs ys => skipNumberTail ('.' :: c :: xs) = .ok ys) cs rest := by
      refine (dropDigits_endsAhead cs).comp (skipExponentIfAny_endsAhead h) fun hL hM => ?_
      rw [hfraction, hL, hM]
    exact hpiece.cons fun hL => hL

theorem skipNumberTail_endsAhead {cs rest : List Char} (h : skipNumberTail cs = .ok rest) :
    EndsAhead (fun xs ys => skipNumberTail xs = .ok ys) cs rest := by
  refine EndsAhead.byHead (c := '.') ?_ ?_ id
    fun hpoint hL => (skipNumberTail_of_head hpoint).trans hL
  · rintro tail rfl
    exact skipFraction_endsAhead h
  · intro hpoint
    exact skipExponentIfAny_endsAhead ((skipNumberTail_of_head hpoint).symm.trans h)

theorem skipMagnitude_zero {cs : List Char} (h : ∀ c, cs.head? = some c → isDigit c = false) :
    skipMagnitude ('0' :: cs) = skipNumberTail cs := by
  rcases cs with _ | ⟨c, cs⟩
  · rfl
  · simp [skipMagnitude, h c rfl]

theorem skipMagnitude_endsAhead {cs rest : List Char} (h : skipMagnitude cs = .ok rest) :
    EndsAhead (fun xs ys => skipMagnitude xs = .ok ys) cs rest := by
  rcases cs with _ | ⟨c, cs⟩
  · simp [skipMagnitude] at h
  by_cases hzero : c = '0'
  · subst hzero
    have hstop : ∀ c, cs.head? = some c → isDigit c = false := by
      intro c hc
      obtain ⟨tail, rfl⟩ := List.head?_eq_some_iff.mp hc
      cases hdigit : isDigit c with
      | false => rfl
      | true => simp [skipMagnitude, hdigit] at h
    rw [skipMagnitude_zero hstop] at h
    refine (skipNumberTail_endsAhead h).cons_head fun hhead hL => ?_
    rw [skipMagnitude_zero (by rw [hhead]; exact hstop), hL]
  · cases hdigit : isDigit c with
    | false => simp [skipMagnitude, hdigit] at h
    | true =>
      have hdigits : ∀ ys, skipMagnitude (c :: ys) = skipNumberTail (ys.dropWhile isDigit) := by
        intro ys
        simp [skipMagnitude, hdigit]
      rw [hdigits] at h
      have hpiece : EndsAhead (fun xs ys => skipMagnitude (c :: xs) = .ok ys) cs rest := by
        refine (dropDigits_endsAhead cs).comp (skipNumberTail_endsAhead h) fun hL hM => ?_
        rw [hdigits, hL, hM]
      exact hpiece.cons fun hL => hL

theorem skipNumber_of_head {cs : List Char} (h : cs.head? ≠ some '-') :
    skipNumber cs = skipMagnitude cs := by
  rw [skipNumber]
  rintro tail rfl
  exact h rfl

theorem skipNumber_endsAhead {cs rest : List Char} (h : skipNumber cs = .ok rest) :
    EndsAhead (fun xs ys => skipNumber xs = .ok ys) cs rest := by
  refine EndsAhead.byHead (c := '-') ?_ ?_ id
    fun hminus hL => (skipNumber_of_head hminus).trans hL
  · rintro tail rfl
    exact skipMagnitude_endsAhead h
  · intro hminus
    exact skipMagnitude_endsAhead ((skipNumber_of_head hminus).symm.trans h)

end LoanPricing.Json
