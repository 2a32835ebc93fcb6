import LoanPricing.Json.Error

/-!
# JSON words and strings — the pieces below a value

Blanks, the words `null`, `true` and `false`, and strings with their escapes. Every reader takes
the characters from the point where its piece begins and gives back what follows the piece.

A string is read in one of two ways. Where its text is wanted, surrogates have to come in pairs;
where a value is skipped, any four hexadecimal digits may follow `\u`.
-/

namespace LoanPricing.Json

/-- A reader of one piece of a JSON text: the value and the characters after it. -/
abbrev Reading (α : Type) := Except Fault (α × List Char)

/-- The four characters that may stand between the pieces of a JSON text. -/
def isBlank (c : Char) : Bool :=
  c == ' ' || c == '\n' || c == '\t' || c == '\r'

def skipBlanks (cs : List Char) : List Char :=
  cs.dropWhile isBlank

/-- What follows a word that has to stand here. -/
def readWord : List Char → List Char → Except Fault (List Char)
  | [], cs => .ok cs
  | _ :: _, [] => .error (fault .endInValue [])
  | w :: ws, c :: cs => if c = w then readWord ws cs else .error (faultAhead .badWord (c :: cs))

/-- The number that four hexadecimal digits spell, and what follows them. A fault covers four
bytes, however many characters these are. -/
def readHex4 (cs : List Char) : Reading Nat :=
  if byteCount cs < 4 then .error (fault .endInString [])
  else
    let bad : Reading Nat := .error { cause := .badEscape, unread := byteCount cs - 4 }
    match cs with
    | a :: b :: c :: d :: rest =>
      match Text.hexDigit? a, Text.hexDigit? b, Text.hexDigit? c, Text.hexDigit? d with
      | some a, some b, some c, some d => .ok (((a * 16 + b) * 16 + c) * 16 + d, rest)
      | _, _, _, _ => bad
    | _ => bad

def isHighSurrogate (n : Nat) : Bool :=
  0xD800 ≤ n && n ≤ 0xDBFF

def isLowSurrogate (n : Nat) : Bool :=
  0xDC00 ≤ n && n ≤ 0xDFFF

def pairedChar (high low : Nat) : Char :=
  Char.ofNat ((high - 0xD800) * 0x400 + (low - 0xDC00) + 0x10000)

/-- The second half of a pair whose first half is `high`, from what follows the first half. -/
def readLowSurrogate (high : Nat) : List Char → Reading Char
  | [] => .error (fault .endInString [])
  | '\\' :: [] => .error (fault .endInString [])
  | '\\' :: 'u' :: cs =>
    match readHex4 cs with
    | .error f => .error f
    | .ok (low, rest) =>
      if isLowSurrogate low then .ok (pairedChar high low, rest)
      else .error (fault .loneSurrogate rest)
  | '\\' :: cs => .error (faultAhead .openSurrogate cs)
  | cs => .error (faultAhead .openSurrogate cs)

/-- The character of an escape, read from what follows its `\u`. -/
def readUnicodeEscape (cs : List Char) : Reading Char :=
  match readHex4 cs with
  | .error f => .error f
  | .ok (unit, rest) =>
    if isLowSurrogate unit then .error (fault .loneSurrogate rest)
    else if isHighSurrogate unit then readLowSurrogate unit rest
    else .ok (Char.ofNat unit, rest)

def shortEscape? : Char → Option Char
  | '"' => some '"'
  | '\\' => some '\\'
  | '/' => some '/'
  | 'b' => some '\x08'
  | 'f' => some '\x0C'
  | 'n' => some '\n'
  | 'r' => some '\r'
  | 't' => some '\t'
  | _ => none

/-- The character of an escape, read from what follows its backslash. -/
def readEscape : List Char → Reading Char
  | [] => .error (fault .endInString [])
  | 'u' :: cs => readUnicodeEscape cs
  | c :: cs =>
    match shortEscape? c with
    | some e => .ok (e, cs)
    | none => .error (faultAhead .badEscape (c :: cs))

/-- What follows an escape that is skipped, from what follows its backslash. -/
def skipEscape : List Char → Except Fault (List Char)
  | [] => .error (fault .endInString [])
  | 'u' :: cs => (readHex4 cs).map Prod.snd
  | c :: cs =>
    match shortEscape? c with
    | some _ => .ok cs
    | none => .error (faultAhead .badEscape (c :: cs))

theorem readHex4_length {cs rest : List Char} {n : Nat} (h : readHex4 cs = .ok (n, rest)) :
    rest.length < cs.length := by
  unfold readHex4 at h
  split at h
  · simp at h
  · split at h
    · split at h
      · simp only [Except.ok.injEq, Prod.mk.injEq] at h
        simp only [← h.2, List.length_cons]
        omega
      · simp at h
    · simp at h

theorem readLowSurrogate_length {high : Nat} {cs rest : List Char} {c : Char}
    (h : readLowSurrogate high cs = .ok (c, rest)) : rest.length < cs.length := by
  unfold readLowSurrogate at h
  split at h
  · simp at h
  · simp at h
  · split at h
    · simp at h
    · rename_i hx
      have := readHex4_length hx
      split at h
      · simp only [Except.ok.injEq, Prod.mk.injEq] at h
        simp only [List.length_cons, ← h.2]
        omega
      · simp at h
  · simp at h
  · simp at h

theorem readUnicodeEscape_length {cs rest : List Char} {c : Char}
    (h : readUnicodeEscape cs = .ok (c, rest)) : rest.length < cs.length := by
  unfold readUnicodeEscape at h
  split at h
  · simp at h
  · rename_i hx
    have hlen := readHex4_length hx
    split at h
    · simp at h
    · split at h
      · exact Nat.lt_trans (readLowSurrogate_length h) hlen
      · simp only [Except.ok.injEq, Prod.mk.injEq] at h
        rw [← h.2]
        exact hlen

-- An escape takes at least one character.
theorem readEscape_length {cs rest : List Char} {c : Char} (h : readEscape cs = .ok (c, rest)) :
    rest.length < cs.length := by
  unfold readEscape at h
  split at h
  · simp at h
  · have := readUnicodeEscape_length h
    simp only [List.length_cons]
    omega
  · split at h
    · simp only [Except.ok.injEq, Prod.mk.injEq] at h
      simp [← h.2]
    · simp at h

-- A skipped escape takes at least one character.
theorem skipEscape_length {cs rest : List Char} (h : skipEscape cs = .ok rest) :
    rest.length < cs.length := by
  unfold skipEscape at h
  split at h
  · simp at h
  · rename_i cs'
    cases hx : readHex4 cs' with
    | error e => simp [hx, Except.map] at h
    | ok p =>
      obtain ⟨n, rest'⟩ := p
      have := readHex4_length hx
      simp only [hx, Except.map, Except.ok.injEq] at h
      subst h
      simp only [List.length_cons]
      omega
  · split at h
    · simp only [Except.ok.injEq] at h
      simp [← h]
    · simp at h

/-- The characters of a string up to its closing quote, from what follows its opening quote. -/
def readStringTail : List Char → Reading (List Char)
  | [] => .error (fault .endInString [])
  | '"' :: cs => .ok ([], cs)
  | '\\' :: cs =>
    match _h : readEscape cs with
    | .error f => .error f
    | .ok (c, rest) => (readStringTail rest).map fun (text, after) => (c :: text, after)
  | c :: cs =>
    if c.toNat < 0x20 then .error (faultAhead .controlInString (c :: cs))
    else (readStringTail cs).map fun (text, after) => (c :: text, after)
termination_by cs => cs.length
decreasing_by
  · have := readEscape_length ‹_›
    simp only [List.length_cons]
    omega
  · simp

/-- What follows a string that is skipped, from what follows its opening quote. -/
def skipStringTail : List Char → Except Fault (List Char)
  | [] => .error (fault .endInString [])
  | '"' :: cs => .ok cs
  | '\\' :: cs =>
    match _h : skipEscape cs with
    | .error f => .error f
    | .ok rest => skipStringTail rest
  | c :: cs =>
    if c.toNat < 0x20 then .error (fault .controlInString (c :: cs)) else skipStringTail cs
termination_by cs => cs.length
decreasing_by
  · have := skipEscape_length ‹_›
    simp only [List.length_cons]
    omega
  · simp

theorem readWord_length {word cs rest : List Char} (h : readWord word cs = .ok rest) :
    rest.length ≤ cs.length := by
  induction word generalizing cs with
  | nil => simp_all [readWord]
  | cons w ws ih =>
    cases cs with
    | nil => simp [readWord] at h
    | cons c cs =>
      simp only [readWord] at h
      split at h
      · have := ih h
        simp only [List.length_cons]
        omega
      · simp at h

theorem skipBlanks_length (cs : List Char) : (skipBlanks cs).length ≤ cs.length :=
  (List.dropWhile_sublist _).length_le

theorem length_of_skipBlanks_eq {cs rest : List Char} (h : skipBlanks cs = rest) :
    rest.length ≤ cs.length :=
  h ▸ skipBlanks_length cs

theorem length_of_skipBlanks_cons {cs rest : List Char} {c : Char}
    (h : skipBlanks cs = c :: rest) : rest.length < cs.length := by
  have := length_of_skipBlanks_eq h
  simp only [List.length_cons] at this
  omega

-- A string takes at least its closing quote.
theorem readStringTail_length {cs rest text : List Char}
    (h : readStringTail cs = .ok (text, rest)) : rest.length < cs.length := by
  fun_induction readStringTail cs generalizing text rest with
  | case1 => simp at h
  | case2 cs =>
    simp only [Except.ok.injEq, Prod.mk.injEq] at h
    simp [← h.2]
  | case3 => simp at h
  | case4 cs c after hr ih =>
    cases ht : readStringTail after with
    | error e => simp [ht, Except.map] at h
    | ok p =>
      obtain ⟨text', rest'⟩ := p
      simp only [ht, Except.map, Except.ok.injEq, Prod.mk.injEq] at h
      have h1 := ih ht
      have h2 := readEscape_length hr
      simp only [List.length_cons]
      rw [← h.2]
      omega
  | case5 => simp at h
  | case6 c cs _ _ _ ih =>
    cases ht : readStringTail cs with
    | error e => simp [ht, Except.map] at h
    | ok p =>
      obtain ⟨text', rest'⟩ := p
      simp only [ht, Except.map, Except.ok.injEq, Prod.mk.injEq] at h
      have h1 := ih ht
      simp only [List.length_cons]
      rw [← h.2]
      omega

-- A skipped string takes at least its closing quote.
theorem skipStringTail_length {cs rest : List Char} (h : skipStringTail cs = .ok rest) :
    rest.length < cs.length := by
  fun_induction skipStringTail cs with
  | case1 => simp at h
  | case2 cs =>
    simp only [Except.ok.injEq] at h
    simp [← h]
  | case3 => simp at h
  | case4 cs after hr ih =>
    have h1 := ih h
    have h2 := skipEscape_length hr
    simp only [List.length_cons]
    omega
  | case5 => simp at h
  | case6 c cs _ _ _ ih =>
    have h1 := ih h
    simp only [List.length_cons]
    omega

end LoanPricing.Json
