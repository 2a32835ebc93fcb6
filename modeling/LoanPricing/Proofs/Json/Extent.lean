import LoanPricing.Json.Skip

/-!
# Extents — how far a reader of JSON looks

What a reader takes off the front of a text does not depend on what it leaves. A reader of strings
and brackets knows by itself where its piece *ends*. A reader of numbers or blanks has to look at
the character behind its piece: the piece *ends ahead*, and what is left can be exchanged for any
other text with the same first character.
-/

namespace LoanPricing.Json

/-! ## 1. Pieces of a text -/

/-- The piece between `cs` and `rest` can be followed by any other text. -/
def Ends (leaves : List Char → List Char → Prop) (cs rest : List Char) : Prop :=
  ∃ xs, cs = xs ++ rest ∧ ∀ ys, leaves (xs ++ ys) ys

/-- The piece between `cs` and `rest` can be followed by any other text whose first character is the
same. -/
def EndsAhead (leaves : List Char → List Char → Prop) (cs rest : List Char) : Prop :=
  ∃ xs, cs = xs ++ rest ∧ ∀ ys, ys.head? = rest.head? → leaves (xs ++ ys) ys

section

variable {L M N : List Char → List Char → Prop} {cs mid rest : List Char} {c : Char}

theorem Ends.ahead (h : Ends L cs rest) : EndsAhead L cs rest := by
  obtain ⟨xs, hcs, hL⟩ := h
  exact ⟨xs, hcs, fun ys _ => hL ys⟩

theorem Ends.refl (h : ∀ ys, L ys ys) : Ends L rest rest :=
  ⟨[], rfl, h⟩

theorem EndsAhead.refl (h : ∀ ys, ys.head? = rest.head? → L ys ys) : EndsAhead L rest rest :=
  ⟨[], rfl, h⟩

theorem EndsAhead.refl_nil (h : L [] []) : EndsAhead L [] [] := by
  refine .refl fun ys hys => ?_
  rw [List.head?_nil, List.head?_eq_none_iff] at hys
  rw [hys]
  exact h

theorem EndsAhead.refl_cons (h : ∀ ys, L (c :: ys) (c :: ys)) :
    EndsAhead L (c :: rest) (c :: rest) := by
  refine .refl fun ys hys => ?_
  obtain ⟨tail, rfl⟩ := List.head?_eq_some_iff.mp hys
  exact h tail

-- The exchange keeps the first character of the whole text, even before an empty piece.
theorem EndsAhead.head (h : EndsAhead L cs rest) :
    EndsAhead (fun xs ys => xs.head? = cs.head? ∧ L xs ys) cs rest := by
  obtain ⟨xs, rfl, hL⟩ := h
  refine ⟨xs, rfl, fun ys hys => ⟨?_, hL ys hys⟩⟩
  rw [List.head?_append, List.head?_append, hys]

theorem EndsAhead.imp_head (h : EndsAhead L cs rest)
    (hLM : ∀ {xs ys}, xs.head? = cs.head? → L xs ys → M xs ys) : EndsAhead M cs rest := by
  obtain ⟨xs, hcs, hL⟩ := h.head
  exact ⟨xs, hcs, fun ys hys => hLM (hL ys hys).1 (hL ys hys).2⟩

theorem EndsAhead.cons_head (h : EndsAhead L cs rest)
    (hLM : ∀ {xs ys}, xs.head? = cs.head? → L xs ys → M (c :: xs) ys) :
    EndsAhead M (c :: cs) rest := by
  obtain ⟨xs, hcs, hL⟩ := h.head
  exact ⟨c :: xs, congrArg (c :: ·) hcs, fun ys hys => hLM (hL ys hys).1 (hL ys hys).2⟩

-- The exchange keeps the first character of what is left.
theorem EndsAhead.next (h : EndsAhead L cs rest) :
    EndsAhead (fun xs ys => ys.head? = rest.head? ∧ L xs ys) cs rest := by
  obtain ⟨xs, hcs, hL⟩ := h
  exact ⟨xs, hcs, fun ys hys => ⟨hys, hL ys hys⟩⟩

theorem Ends.imp (h : Ends L cs rest) (hLM : ∀ {xs ys}, L xs ys → M xs ys) : Ends M cs rest := by
  obtain ⟨xs, hcs, hL⟩ := h
  exact ⟨xs, hcs, fun ys => hLM (hL ys)⟩

theorem EndsAhead.imp (h : EndsAhead L cs rest) (hLM : ∀ {xs ys}, L xs ys → M xs ys) :
    EndsAhead M cs rest := by
  obtain ⟨xs, hcs, hL⟩ := h
  exact ⟨xs, hcs, fun ys hys => hLM (hL ys hys)⟩

theorem Ends.cons (h : Ends L cs rest) (hLM : ∀ {xs ys}, L xs ys → M (c :: xs) ys) :
    Ends M (c :: cs) rest := by
  obtain ⟨xs, rfl, hL⟩ := h
  exact ⟨c :: xs, rfl, fun ys => hLM (hL ys)⟩

theorem Ends.cons_cons {d : Char} (h : Ends L cs rest)
    (hLM : ∀ {xs ys}, L xs ys → M (c :: d :: xs) ys) : Ends M (c :: d :: cs) rest := by
  obtain ⟨xs, rfl, hL⟩ := h
  exact ⟨c :: d :: xs, rfl, fun ys => hLM (hL ys)⟩

theorem EndsAhead.cons (h : EndsAhead L cs rest) (hLM : ∀ {xs ys}, L xs ys → M (c :: xs) ys) :
    EndsAhead M (c :: cs) rest := by
  obtain ⟨xs, rfl, hL⟩ := h
  exact ⟨c :: xs, rfl, fun ys hys => hLM (hL ys hys)⟩

-- One piece after another.
theorem Ends.comp (h : Ends L cs mid) (h' : Ends M mid rest)
    (hN : ∀ {xs ys zs}, L xs ys → M ys zs → N xs zs) : Ends N cs rest := by
  obtain ⟨xs, rfl, hL⟩ := h
  obtain ⟨ys, rfl, hM⟩ := h'
  refine ⟨xs ++ ys, (List.append_assoc _ _ _).symm, fun zs => ?_⟩
  rw [List.append_assoc]
  exact hN (hL _) (hM zs)

-- One piece after another: the first sees the same character ahead, whether it is one of the second
-- piece or of what is left.
theorem EndsAhead.comp (h : EndsAhead L cs mid) (h' : EndsAhead M mid rest)
    (hN : ∀ {xs ys zs}, L xs ys → M ys zs → N xs zs) : EndsAhead N cs rest := by
  obtain ⟨xs, rfl, hL⟩ := h
  obtain ⟨ys, rfl, hM⟩ := h'
  refine ⟨xs ++ ys, (List.append_assoc _ _ _).symm, fun zs hzs => ?_⟩
  rw [List.append_assoc]
  refine hN (hL _ ?_) (hM zs hzs)
  rw [List.head?_append, List.head?_append, hzs]

-- A piece that ends by itself hides what is left from the piece before it.
theorem EndsAhead.comp_ends (h : EndsAhead L cs mid) (h' : Ends M mid rest)
    (hlen : rest.length < mid.length) (hN : ∀ {xs ys zs}, L xs ys → M ys zs → N xs zs) :
    Ends N cs rest := by
  obtain ⟨xs, rfl, hL⟩ := h
  obtain ⟨ys, rfl, hM⟩ := h'
  refine ⟨xs ++ ys, (List.append_assoc _ _ _).symm, fun zs => ?_⟩
  rw [List.append_assoc]
  refine hN (hL _ ?_) (hM zs)
  cases ys with
  | nil => simp at hlen
  | cons y ys => rfl

-- A piece that is extended by the character behind it ends by itself.
theorem EndsAhead.snoc (h : EndsAhead L cs (c :: rest))
    (hLM : ∀ {xs ys}, L xs (c :: ys) → M xs ys) : Ends M cs rest := by
  obtain ⟨xs, rfl, hL⟩ := h
  refine ⟨xs ++ [c], List.append_cons xs c rest, fun ys => hLM ?_⟩
  rw [List.append_assoc]
  exact hL (c :: ys) rfl

-- A reader that goes one way at a certain character and another way at every other text looks no
-- further ahead than the reader of the way that it takes.
theorem EndsAhead.byHead (hon : ∀ tail, cs = c :: tail → EndsAhead M tail rest)
    (hoff : cs.head? ≠ some c → EndsAhead N cs rest) (hM : ∀ {xs ys}, M xs ys → L (c :: xs) ys)
    (hN : ∀ {xs ys}, xs.head? ≠ some c → N xs ys → L xs ys) : EndsAhead L cs rest := by
  by_cases hc : cs.head? = some c
  · obtain ⟨tail, rfl⟩ := List.head?_eq_some_iff.mp hc
    exact (hon tail rfl).cons hM
  · refine (hoff hc).imp_head fun hhead hL => ?_
    rw [← hhead] at hc
    exact hN hc hL

-- Characters of a class, up to the first of another class.
theorem endsAhead_span (p : Char → Bool) (cs : List Char) :
    EndsAhead (fun xs ys => xs.takeWhile p = cs.takeWhile p ∧ xs.dropWhile p = ys) cs
      (cs.dropWhile p) := by
  induction cs with
  | nil => exact .refl_nil ⟨rfl, rfl⟩
  | cons c cs ih =>
    by_cases hc : p c = true
    · rw [List.dropWhile_cons_of_pos hc, List.takeWhile_cons_of_pos hc]
      refine ih.cons fun hL => ⟨?_, ?_⟩
      · rw [List.takeWhile_cons_of_pos hc, hL.1]
      · rw [List.dropWhile_cons_of_pos hc, hL.2]
    · rw [List.dropWhile_cons_of_neg hc, List.takeWhile_cons_of_neg hc]
      refine .refl_cons fun ys => ⟨?_, ?_⟩
      · rw [List.takeWhile_cons_of_neg hc]
      · rw [List.dropWhile_cons_of_neg hc]

end

/-! ## 2. Blanks and words -/

theorem skipBlanks_endsAhead (cs : List Char) :
    EndsAhead (fun xs ys => skipBlanks xs = ys) cs (skipBlanks cs) :=
  (endsAhead_span isBlank cs).imp fun h => h.2

-- Blanks together with the character behind them.
theorem skipBlanks_ends {cs rest : List Char} {c : Char} (h : skipBlanks cs = c :: rest) :
    Ends (fun xs ys => skipBlanks xs = c :: ys) cs rest := by
  have hblanks := skipBlanks_endsAhead cs
  rw [h] at hblanks
  exact hblanks.snoc fun hL => hL

-- Two characters, each with blanks before it.
theorem skipBlanks_ends_pair {cs mid rest : List Char} {c d : Char} (h : skipBlanks cs = c :: mid)
    (h' : skipBlanks mid = d :: rest) :
    Ends (fun xs ys => ∃ mid, skipBlanks xs = c :: mid ∧ skipBlanks mid = d :: ys) cs rest :=
  (skipBlanks_ends h).comp (skipBlanks_ends h') fun hL hM => ⟨_, hL, hM⟩

-- A piece with blanks before it.
theorem EndsAhead.afterBlanks {L : List Char → List Char → Prop} {cs rest : List Char}
    (h : EndsAhead L (skipBlanks cs) rest) :
    EndsAhead (fun xs ys => (skipBlanks xs).head? = (skipBlanks cs).head? ∧ L (skipBlanks xs) ys)
      cs rest := by
  refine (skipBlanks_endsAhead cs).comp h.head fun hL hM => ?_
  rw [hL]
  exact hM

theorem readWord_eq_ok_iff {word cs rest : List Char} :
    readWord word cs = .ok rest ↔ cs = word ++ rest := by
  induction word generalizing cs with
  | nil =>
    rw [readWord, List.nil_append]
    exact ⟨fun h => Except.ok.inj h, fun h => congrArg _ h⟩
  | cons w word ih =>
    cases cs with
    | nil => simp [readWord]
    | cons c cs =>
      rw [readWord]
      by_cases hc : c = w
      · rw [if_pos hc, ih, hc, List.cons_append, List.cons.injEq]
        exact ⟨fun h => ⟨rfl, h⟩, fun h => h.2⟩
      · rw [if_neg hc]
        simp [hc]

theorem readWord_ends {word cs rest : List Char} (h : readWord word cs = .ok rest) :
    Ends (fun xs ys => readWord word xs = .ok ys) cs rest :=
  ⟨word, readWord_eq_ok_iff.mp h, fun _ => readWord_eq_ok_iff.mpr rfl⟩

/-! ## 3. Escapes -/

theorem readHex4_eq_ok_iff {cs rest : List Char} {n : Nat} :
    readHex4 cs = .ok (n, rest) ↔
      ∃ a b c d, cs = a :: b :: c :: d :: rest ∧
        ∃ a' b' c' d', Text.hexDigit? a = some a' ∧ Text.hexDigit? b = some b' ∧
          Text.hexDigit? c = some c' ∧ Text.hexDigit? d = some d' ∧
          n = ((a' * 16 + b') * 16 + c') * 16 + d' := by
  constructor
  · intro h
    unfold readHex4 at h
    split at h
    · simp at h
    split at h
    · split at h
      · rename_i a b c d _ _ _ _ _ _ a' b' c' d' ha hb hc hd
        simp only [Except.ok.injEq, Prod.mk.injEq] at h
        obtain ⟨rfl, rfl⟩ := h
        exact ⟨a, b, c, d, rfl, a', b', c', d', ha, hb, hc, hd, rfl⟩
      · simp at h
    · simp at h
  · rintro ⟨a, b, c, d, rfl, a', b', c', d', ha, hb, hc, hd, rfl⟩
    -- four characters are at least the four bytes that have to be there
    have hcount : ¬ byteCount (a :: b :: c :: d :: rest) < 4 := by
      have hsize : ∀ x : Char, 1 ≤ x.utf8Size := fun x => x.utf8Size_pos
      have h1 := hsize a
      have h2 := hsize b
      have h3 := hsize c
      have h4 := hsize d
      simp only [byteCount]
      omega
    unfold readHex4
    rw [if_neg hcount]
    simp only [ha, hb, hc, hd]

theorem readHex4_ends {cs rest : List Char} {n : Nat} (h : readHex4 cs = .ok (n, rest)) :
    Ends (fun xs ys => readHex4 xs = .ok (n, ys)) cs rest := by
  obtain ⟨a, b, c, d, rfl, hdigits⟩ := readHex4_eq_ok_iff.mp h
  exact ⟨[a, b, c, d], rfl, fun ys => readHex4_eq_ok_iff.mpr ⟨a, b, c, d, rfl, hdigits⟩⟩

theorem readLowSurrogate_ends {high : Nat} {cs rest : List Char} {c : Char}
    (h : readLowSurrogate high cs = .ok (c, rest)) :
    Ends (fun xs ys => readLowSurrogate high xs = .ok (c, ys)) cs rest := by
  unfold readLowSurrogate at h
  split at h
  · simp at h
  · simp at h
  · rename_i tail
    cases hhex : readHex4 tail with
    | error f => simp [hhex] at h
    | ok p =>
      obtain ⟨low, after⟩ := p
      simp only [hhex] at h
      split at h
      · rename_i hlow
        simp only [Except.ok.injEq, Prod.mk.injEq] at h
        obtain ⟨rfl, rfl⟩ := h
        refine (readHex4_ends hhex).cons_cons fun hL => ?_
        simp only [readLowSurrogate, hL, hlow, if_true]
      · simp at h
  · simp at h
  · simp at h

theorem readUnicodeEscape_ends {cs rest : List Char} {c : Char}
    (h : readUnicodeEscape cs = .ok (c, rest)) :
    Ends (fun xs ys => readUnicodeEscape xs = .ok (c, ys)) cs rest := by
  unfold readUnicodeEscape at h
  cases hhex : readHex4 cs with
  | error f => simp [hhex] at h
  | ok p =>
    obtain ⟨unit, after⟩ := p
    simp only [hhex] at h
    by_cases hlow : isLowSurrogate unit = true
    · simp [hlow] at h
    by_cases hhigh : isHighSurrogate unit = true
    · rw [if_neg hlow, if_pos hhigh] at h
      refine (readHex4_ends hhex).comp (readLowSurrogate_ends h) fun hL hM => ?_
      simp only [readUnicodeEscape, hL, if_neg hlow, if_pos hhigh, hM]
    · rw [if_neg hlow, if_neg hhigh] at h
      simp only [Except.ok.injEq, Prod.mk.injEq] at h
      obtain ⟨rfl, rfl⟩ := h
      refine (readHex4_ends hhex).imp fun hL => ?_
      simp only [readUnicodeEscape, hL, if_neg hlow, if_neg hhigh]

theorem readEscape_ends {cs rest : List Char} {c : Char} (h : readEscape cs = .ok (c, rest)) :
    Ends (fun xs ys => readEscape xs = .ok (c, ys)) cs rest := by
  unfold readEscape at h
  split at h
  · simp at h
  · refine (readUnicodeEscape_ends h).cons fun hL => ?_
    rw [readEscape, hL]
  · rename_i letter tail hletter
    cases hshort : shortEscape? letter with
    | none => simp [hshort] at h
    | some e =>
      simp only [hshort, Except.ok.injEq, Prod.mk.injEq] at h
      obtain ⟨rfl, rfl⟩ := h
      refine ⟨[letter], rfl, fun ys => ?_⟩
      simp [readEscape, hshort]

theorem skipEscape_ends {cs rest : List Char} (h : skipEscape cs = .ok rest) :
    Ends (fun xs ys => skipEscape xs = .ok ys) cs rest := by
  unfold skipEscape at h
  split at h
  · simp at h
  · rename_i tail
    cases hhex : readHex4 tail with
    | error f => simp [hhex, Except.map] at h
    | ok p =>
      obtain ⟨unit, after⟩ := p
      simp only [hhex, Except.map, Except.ok.injEq] at h
      subst h
      refine (readHex4_ends hhex).cons fun hL => ?_
      rw [skipEscape, hL]
      rfl
  · rename_i letter tail hletter
    cases hshort : shortEscape? letter with
    | none => simp [hshort] at h
    | some e =>
      simp only [hshort, Except.ok.injEq] at h
      subst h
      refine ⟨[letter], rfl, fun ys => ?_⟩
      simp [skipEscape, hshort]

/-! ## 4. Strings -/

theorem readStringTail_escape {cs rest : List Char} {c : Char}
    (h : readEscape cs = .ok (c, rest)) :
    readStringTail ('\\' :: cs) =
      (readStringTail rest).map fun (text, after) => (c :: text, after) := by
  rw [readStringTail]
  split
  · simp_all
  · rename_i heq
    rw [h] at heq
    obtain ⟨rfl, rfl⟩ := Prod.mk.inj (Except.ok.inj heq)
    rfl

theorem readStringTail_plain {c : Char} (hquote : c ≠ '"') (hslash : c ≠ '\\')
    (hcontrol : ¬ c.toNat < 0x20) (cs : List Char) :
    readStringTail (c :: cs) = (readStringTail cs).map fun (text, after) => (c :: text, after) := by
  rw [readStringTail, if_neg hcontrol]
  · exact hquote
  · exact hslash

theorem skipStringTail_escape {cs rest : List Char} (h : skipEscape cs = .ok rest) :
    skipStringTail ('\\' :: cs) = skipStringTail rest := by
  rw [skipStringTail]
  split
  · simp_all
  · rename_i heq
    rw [h] at heq
    rw [Except.ok.inj heq]

theorem skipStringTail_plain {c : Char} (hquote : c ≠ '"') (hslash : c ≠ '\\')
    (hcontrol : ¬ c.toNat < 0x20) (cs : List Char) :
    skipStringTail (c :: cs) = skipStringTail cs := by
  rw [skipStringTail, if_neg hcontrol]
  · exact hquote
  · exact hslash

theorem readStringTail_ends {cs rest text : List Char}
    (h : readStringTail cs = .ok (text, rest)) :
    Ends (fun xs ys => readStringTail xs = .ok (text, ys)) cs rest := by
  fun_induction readStringTail cs generalizing text rest with
  | case1 => simp at h
  | case2 cs =>
    simp only [Except.ok.injEq, Prod.mk.injEq] at h
    obtain ⟨rfl, rfl⟩ := h
    exact ⟨['"'], rfl, fun ys => by simp [readStringTail]⟩
  | case3 => simp at h
  | case4 cs c after hescape ih =>
    obtain ⟨tail, htail, rfl⟩ := length_of_map_ok h
    have hpiece : Ends (fun xs ys => readStringTail ('\\' :: xs) = .ok (c :: tail, ys)) cs rest := by
      refine (readEscape_ends hescape).comp (ih htail) fun hL hM => ?_
      rw [readStringTail_escape hL, hM]
      rfl
    exact hpiece.cons fun hL => hL
  | case5 => simp at h
  | case6 c cs hquote hslash hcontrol ih =>
    obtain ⟨tail, htail, rfl⟩ := length_of_map_ok h
    refine (ih htail).cons fun hL => ?_
    rw [readStringTail_plain hquote hslash hcontrol, hL]
    rfl

theorem skipStringTail_ends {cs rest : List Char} (h : skipStringTail cs = .ok rest) :
    Ends (fun xs ys => skipStringTail xs = .ok ys) cs rest := by
  fun_induction skipStringTail cs with
  | case1 => simp at h
  | case2 cs =>
    simp only [Except.ok.injEq] at h
    subst h
    exact ⟨['"'], rfl, fun ys => by simp [skipStringTail]⟩
  | case3 => simp at h
  | case4 cs after hescape ih =>
    have hpiece : Ends (fun xs ys => skipStringTail ('\\' :: xs) = .ok ys) cs rest := by
      refine (skipEscape_ends hescape).comp (ih h) fun hL hM => ?_
      rw [skipStringTail_escape hL, hM]
    exact hpiece.cons fun hL => hL
  | case5 => simp at h
  | case6 c cs hquote hslash hcontrol ih =>
    refine (ih h).cons fun hL => ?_
    rw [skipStringTail_plain hquote hslash hcontrol, hL]

end LoanPricing.Json
