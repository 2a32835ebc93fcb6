import LoanPricing.Json.Number

/-!
# Skipped values — finding the end of a value nobody asked for

A member with an unknown key is passed over. Its value has to be well formed, but numbers may be
of any size, surrogates may stand alone, and lists and objects may nest to any depth: the open
brackets are kept in a list.
-/

namespace LoanPricing.Json

open Text (isDigit)

inductive Bracket where
  | list
  | object
  deriving DecidableEq, Repr

/-- What has to come next while a value is skipped. -/
inductive Expect where
  /-- A value. -/
  | value
  /-- The key of a member, its colon and its value. -/
  | member
  /-- A comma or the closing bracket, after a value inside the innermost bracket; the end, if no
  bracket is open. -/
  | next
  deriving DecidableEq, Repr

/-- What follows a value without brackets, from its first character. -/
def skipScalar : List Char → Except Fault (List Char)
  | 'n' :: cs => readWord ['u', 'l', 'l'] cs
  | 't' :: cs => readWord ['r', 'u', 'e'] cs
  | 'f' :: cs => readWord ['a', 'l', 's', 'e'] cs
  | '"' :: cs => skipStringTail cs
  | [] => .error (fault .endInValue [])
  | c :: cs =>
    if c = '-' ∨ isDigit c then skipNumber (c :: cs) else .error (faultAhead .noValue (c :: cs))

/-- What follows the key of a member and its colon, from the character where the key begins. -/
def skipKey : List Char → Except Fault (List Char)
  | [] => .error (fault .endInObject [])
  | '"' :: cs =>
    match skipStringTail cs with
    | .error f => .error f
    | .ok rest =>
      match skipBlanks rest with
      | [] => .error (fault .endInObject [])
      | ':' :: rest => .ok rest
      | rest => .error (faultAhead .noColon rest)
  | cs => .error (faultAhead .keyNotString cs)

theorem skipExponent_length {cs rest : List Char} (h : skipExponent cs = .ok rest) :
    rest.length < cs.length := by
  have hs := exponentSign_length cs
  unfold skipExponent at h
  simp only at h
  split at h
  · simp at h
  · rename_i c rest' heq
    rw [heq, List.length_cons] at hs
    split at h
    · simp only [Except.ok.injEq] at h
      have := (List.dropWhile_sublist isDigit (l := rest')).length_le
      rw [← h]
      omega
    · simp at h

theorem skipExponentIfAny_length {cs rest : List Char} (h : skipExponentIfAny cs = .ok rest) :
    rest.length ≤ cs.length := by
  unfold skipExponentIfAny at h
  split at h
  · have := skipExponent_length h
    simp only [List.length_cons]
    omega
  · have := skipExponent_length h
    simp only [List.length_cons]
    omega
  · simp only [Except.ok.injEq] at h
    simp [h]

theorem skipNumberTail_length {cs rest : List Char} (h : skipNumberTail cs = .ok rest) :
    rest.length ≤ cs.length := by
  unfold skipNumberTail at h
  split at h
  · split at h
    · simp at h
    · rename_i c rest'
      split at h
      · have h1 := skipExponentIfAny_length h
        have h2 := (List.dropWhile_sublist isDigit (l := rest')).length_le
        simp only [List.length_cons]
        omega
      · simp at h
  · exact skipExponentIfAny_length h

theorem skipMagnitude_length {cs rest : List Char} (h : skipMagnitude cs = .ok rest) :
    rest.length < cs.length := by
  unfold skipMagnitude at h
  split at h
  · simp at h
  · split at h
    · split at h
      · simp at h
      · have := skipNumberTail_length h
        simp only [List.length_cons] at *
        omega
    · simp only [Except.ok.injEq] at h
      simp [← h]
  · rename_i c rest' _
    split at h
    · have h1 := skipNumberTail_length h
      have h2 := (List.dropWhile_sublist isDigit (l := rest')).length_le
      simp only [List.length_cons]
      omega
    · simp at h

-- A number takes at least one character.
theorem skipNumber_length {cs rest : List Char} (h : skipNumber cs = .ok rest) :
    rest.length < cs.length := by
  unfold skipNumber at h
  split at h
  · have := skipMagnitude_length h
    simp only [List.length_cons]
    omega
  · exact skipMagnitude_length h

-- A value without brackets takes at least one character.
theorem skipScalar_length {cs rest : List Char} (h : skipScalar cs = .ok rest) :
    rest.length < cs.length := by
  unfold skipScalar at h
  split at h
  · have := readWord_length h
    simp only [List.length_cons]
    omega
  · have := readWord_length h
    simp only [List.length_cons]
    omega
  · have := readWord_length h
    simp only [List.length_cons]
    omega
  · have := skipStringTail_length h
    simp only [List.length_cons]
    omega
  · simp at h
  · split at h
    · exact skipNumber_length h
    · simp at h

-- A key and its colon take at least one character.
theorem skipKey_length {cs rest : List Char} (h : skipKey cs = .ok rest) :
    rest.length < cs.length := by
  unfold skipKey at h
  split at h
  · simp at h
  · split at h
    · simp at h
    · rename_i hs
      have h1 := skipStringTail_length hs
      split at h
      · simp at h
      · rename_i heq
        have h2 := length_of_skipBlanks_cons heq
        simp only [Except.ok.injEq] at h
        simp only [List.length_cons, ← h]
        omega
      · simp at h
  · simp at h

/-- What follows the rest of a value, with the given brackets open, innermost first. -/
def skipFrom (expect : Expect) (stack : List Bracket) (cs : List Char) :
    Except Fault (List Char) :=
  match expect with
  | .value =>
    match _hb : skipBlanks cs with
    | '[' :: cs =>
      match _hc : skipBlanks cs with
      | ']' :: rest => skipFrom .next stack rest
      | [] => .error (fault .endInList [])
      | cs => skipFrom .value (.list :: stack) cs
    | '{' :: cs =>
      match _hc : skipBlanks cs with
      | '}' :: rest => skipFrom .next stack rest
      | [] => .error (fault .endInObject [])
      | cs => skipFrom .member (.object :: stack) cs
    | cs =>
      match _hs : skipScalar cs with
      | .ok rest => skipFrom .next stack rest
      | .error f => .error f
  | .member =>
    match _hk : skipKey (skipBlanks cs) with
    | .ok rest => skipFrom .value stack rest
    | .error f => .error f
  | .next =>
    match stack with
    | [] => .ok cs
    | .list :: outer =>
      match _hb : skipBlanks cs with
      | ',' :: cs => skipFrom .value stack cs
      | ']' :: cs => skipFrom .next outer cs
      | [] => .error (fault .endInList [])
      | cs => .error (faultAhead .noListComma cs)
    | .object :: outer =>
      match _hb : skipBlanks cs with
      | ',' :: cs => skipFrom .member stack cs
      | '}' :: cs => skipFrom .next outer cs
      | [] => .error (fault .endInObject [])
      | cs => .error (faultAhead .noObjectComma cs)
termination_by cs.length
decreasing_by
  · have h1 := length_of_skipBlanks_cons _hb
    have h2 := length_of_skipBlanks_cons _hc
    omega
  · have h1 := length_of_skipBlanks_cons _hb
    have h2 := length_of_skipBlanks_eq _hc
    omega
  · have h1 := length_of_skipBlanks_cons _hb
    have h2 := length_of_skipBlanks_cons _hc
    omega
  · have h1 := length_of_skipBlanks_cons _hb
    have h2 := length_of_skipBlanks_eq _hc
    omega
  · have h1 := length_of_skipBlanks_eq _hb
    have h2 := skipScalar_length _hs
    omega
  · have h1 := skipKey_length _hk
    have h2 := skipBlanks_length cs
    omega
  · exact length_of_skipBlanks_cons _hb
  · exact length_of_skipBlanks_cons _hb
  · exact length_of_skipBlanks_cons _hb
  · exact length_of_skipBlanks_cons _hb

/-- What follows a value that is skipped. -/
def skipValue (cs : List Char) : Except Fault (List Char) :=
  skipFrom .value [] cs

theorem skipFrom_length {expect : Expect} {stack : List Bracket} {cs rest : List Char}
    (h : skipFrom expect stack cs = .ok rest) :
    rest.length ≤ cs.length ∧ (expect ≠ .next → rest.length < cs.length) := by
  fun_induction skipFrom expect stack cs with
  | case1 _ _ _ hb _ hc ih =>
    have h1 := length_of_skipBlanks_cons hb
    have h2 := length_of_skipBlanks_cons hc
    have := (ih h).1
    exact ⟨by omega, fun _ => by omega⟩
  | case2 => simp at h
  | case3 _ _ after hb _ _ ih =>
    have h1 := length_of_skipBlanks_cons hb
    have h2 := skipBlanks_length after
    have := (ih h).1
    exact ⟨by omega, fun _ => by omega⟩
  | case4 _ _ _ hb _ hc ih =>
    have h1 := length_of_skipBlanks_cons hb
    have h2 := length_of_skipBlanks_cons hc
    have := (ih h).1
    exact ⟨by omega, fun _ => by omega⟩
  | case5 => simp at h
  | case6 _ _ after hb _ _ ih =>
    have h1 := length_of_skipBlanks_cons hb
    have h2 := skipBlanks_length after
    have := (ih h).1
    exact ⟨by omega, fun _ => by omega⟩
  | case7 _ before _ _ _ hs ih =>
    have h1 := skipBlanks_length before
    have h2 := skipScalar_length hs
    have := (ih h).1
    exact ⟨by omega, fun _ => by omega⟩
  | case8 => simp at h
  | case9 _ cs rest hk ih =>
    have h1 := skipKey_length hk
    have h2 := skipBlanks_length cs
    have := (ih h).1
    exact ⟨by omega, fun _ => by omega⟩
  | case10 => simp at h
  | case11 =>
    simp only [Except.ok.injEq] at h
    simp [h]
  | case12 _ _ _ hb ih =>
    have h1 := length_of_skipBlanks_cons hb
    have := (ih h).1
    exact ⟨by omega, by simp⟩
  | case13 _ _ _ hb ih =>
    have h1 := length_of_skipBlanks_cons hb
    have := (ih h).1
    exact ⟨by omega, by simp⟩
  | case14 => simp at h
  | case15 => simp at h
  | case16 _ _ _ hb ih =>
    have h1 := length_of_skipBlanks_cons hb
    have := (ih h).1
    exact ⟨by omega, by simp⟩
  | case17 _ _ _ hb ih =>
    have h1 := length_of_skipBlanks_cons hb
    have := (ih h).1
    exact ⟨by omega, by simp⟩
  | case18 => simp at h
  | case19 => simp at h

-- A skipped value takes at least one character.
theorem skipValue_length {cs rest : List Char} (h : skipValue cs = .ok rest) :
    rest.length < cs.length :=
  (skipFrom_length h).2 (by simp)

end LoanPricing.Json
