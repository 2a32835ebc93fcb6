import LoanPricing.Text.Utf8

/-!
# UTF-8 — the reader accepts exactly the encodings of texts

The reader gives the characters of a byte sequence if and only if the sequence is what the
characters are encoded as. Both directions go by the first byte of a character, which is one of four
kinds: alone, or followed by one, two or three bytes.
-/

namespace LoanPricing.Text.Utf8

/-! ## 1. The bytes of a text -/

private theorem toList_loop_eq (bytes : ByteArray) (i : Nat) (read : List UInt8) :
    ByteArray.toList.loop bytes i read = read.reverse ++ bytes.data.toList.drop i := by
  fun_induction ByteArray.toList.loop bytes i read with
  | case1 i read hi ih =>
    replace hi : i < bytes.data.toList.length := hi
    have hbyte : bytes.get! i = bytes.data.toList[i] := by
      rw [Array.getElem_toList]
      exact getElem!_pos bytes.data i hi
    rw [ih, hbyte, List.drop_eq_getElem_cons hi, List.reverse_cons, List.append_assoc]
    rfl
  | case2 i read hi =>
    rw [List.drop_of_length_le (Nat.le_of_not_lt hi), List.append_nil]

theorem toList_eq_data_toList (bytes : ByteArray) : bytes.toList = bytes.data.toList :=
  toList_loop_eq bytes 0 []

theorem encode_ofList (cs : List Char) :
    encode (String.ofList cs) = cs.flatMap String.utf8EncodeChar := by
  unfold encode
  rw [String.toUTF8_eq_toByteArray, String.toByteArray_ofList, toList_eq_data_toList]
  exact List.toList_data_toByteArray

/-! ## 2. One byte -/

theorem start_of_two {b : UInt8} (hlow : 0xC2 ≤ b.toNat) (hhigh : b.toNat < 0xE0) :
    start b = ([], .inside 0 0x80 0xBF (b.toNat % 0x20)) := by
  unfold start
  rw [if_neg (by omega), if_neg (by omega), if_pos hhigh]

-- The first of three bytes: after two of them the range of the next is narrower.
theorem start_of_three {b : UInt8} (hlow : 0xE0 ≤ b.toNat) (hhigh : b.toNat < 0xF0) :
    start b = ([], .inside 1 (if b.toNat = 0xE0 then 0xA0 else 0x80)
      (if b.toNat = 0xED then 0x9F else 0xBF) (b.toNat % 0x10)) := by
  unfold start
  rw [if_neg (by omega), if_neg (by omega), if_neg (by omega)]
  by_cases h1 : b.toNat = 0xE0
  · rw [if_pos h1, h1]
    rfl
  by_cases h2 : b.toNat = 0xED
  · rw [if_neg h1, if_pos h2, h2]
    rfl
  · rw [if_neg h1, if_neg h2, if_pos hhigh, if_neg h1, if_neg h2]

-- The first of four bytes: after two of them the range of the next is narrower.
theorem start_of_four {b : UInt8} (hlow : 0xF0 ≤ b.toNat) (hhigh : b.toNat < 0xF5) :
    start b = ([], .inside 2 (if b.toNat = 0xF0 then 0x90 else 0x80)
      (if b.toNat = 0xF4 then 0x8F else 0xBF) (b.toNat % 0x08)) := by
  unfold start
  rw [if_neg (by omega), if_neg (by omega), if_neg (by omega), if_neg (by omega),
    if_neg (by omega), if_neg (by omega)]
  by_cases h1 : b.toNat = 0xF0
  · rw [if_pos h1, h1]
    rfl
  by_cases h2 : b.toNat = 0xF4
  · rw [if_neg h1, if_neg (by omega), if_pos h2, h2]
    rfl
  · rw [if_neg h1, if_pos (by omega), if_neg h1, if_neg h2]

theorem start_of_none {b : UInt8} (h : 0x80 ≤ b.toNat ∧ b.toNat < 0xC2 ∨ 0xF5 ≤ b.toNat) :
    start b = ([none], .ready) := by
  unfold start
  rw [if_neg (by omega)]
  rcases h with h | h
  · rw [if_pos h.2]
  · rw [if_neg (by omega), if_neg (by omega), if_neg (by omega), if_neg (by omega),
      if_neg (by omega), if_neg (by omega), if_neg (by omega), if_neg (by omega)]

theorem piecesFrom_ready_cons (b : UInt8) (rest : List UInt8) :
    piecesFrom .ready (b :: rest) = (start b).1 ++ piecesFrom (start b).2 rest := rfl

theorem piecesFrom_one {a : UInt8} (h : a.toNat < 0x80) (rest : List UInt8) :
    piecesFrom .ready (a :: rest) = some (Char.ofNat a.toNat) :: piecesFrom .ready rest := by
  rw [piecesFrom_ready_cons, start_of_lt h]
  rfl

theorem piecesFrom_last {low high b : UInt8} {bits : Nat} (hlow : low ≤ b) (hhigh : b ≤ high)
    (rest : List UInt8) :
    piecesFrom (.inside 0 low high bits) (b :: rest) =
      some (Char.ofNat (bits * 0x40 + b.toNat % 0x40)) :: piecesFrom .ready rest := by
  simp only [piecesFrom, step]
  rw [if_pos ⟨hlow, hhigh⟩]
  rfl

theorem piecesFrom_next {low high b : UInt8} {bits more : Nat} (hlow : low ≤ b) (hhigh : b ≤ high)
    (rest : List UInt8) :
    piecesFrom (.inside (more + 1) low high bits) (b :: rest) =
      piecesFrom (.inside more 0x80 0xBF (bits * 0x40 + b.toNat % 0x40)) rest := by
  simp only [piecesFrom, step]
  rw [if_pos ⟨hlow, hhigh⟩]
  rfl

/-! ## 3. One character -/

private theorem toNat_ofNat {n : Nat} (h : n < 0x100) : (UInt8.ofNat n).toNat = n :=
  UInt8.toNat_ofNat_of_lt' h

-- A byte that is neither the first of its character nor the second lies between `80` and `BF`.
private theorem continuation_mem (n : Nat) :
    0x80 ≤ UInt8.ofNat (n % 0x40 + 0x80) ∧ UInt8.ofNat (n % 0x40 + 0x80) ≤ 0xBF := by
  rw [UInt8.le_iff_toNat_le, UInt8.le_iff_toNat_le, toNat_ofNat (by omega)]
  constructor
  · exact Nat.le_add_left _ _
  · show n % 0x40 + 0x80 ≤ 0xBF
    omega

/-- The bytes of a character are read as the character. -/
theorem piecesFrom_encodeChar (c : Char) (rest : List UInt8) :
    piecesFrom .ready (String.utf8EncodeChar c ++ rest) = some c :: piecesFrom .ready rest := by
  have hvalid : c.val.toNat < 0xD800 ∨ 0xDFFF < c.val.toNat ∧ c.val.toNat < 0x110000 := c.valid
  have hc : Char.ofNat c.val.toNat = c := Char.ofNat_toNat c
  unfold String.utf8EncodeChar
  generalize c.val.toNat = v at hvalid hc
  simp only
  obtain ⟨hlast, hlast'⟩ := continuation_mem v
  obtain ⟨hnext, hnext'⟩ := continuation_mem (v / 64)
  have h3 := toNat_ofNat (n := v % 0x40 + 0x80) (by omega)
  have h2 := toNat_ofNat (n := v / 64 % 0x40 + 0x80) (by omega)
  have h1 := toNat_ofNat (n := v / 4096 % 0x40 + 0x80) (by omega)
  split
  · have h0 := toNat_ofNat (n := v) (by omega)
    rw [List.singleton_append, piecesFrom_one (by omega), h0, hc]
  split
  · have h0 := toNat_ofNat (n := v / 64 % 0x20 + 0xC0) (by omega)
    rw [List.cons_append, List.singleton_append, piecesFrom_ready_cons,
      start_of_two (by omega) (by omega), List.nil_append, piecesFrom_last hlast hlast', h0, h3,
      show (v / 64 % 0x20 + 0xC0) % 0x20 * 0x40 + (v % 0x40 + 0x80) % 0x40 = v by omega, hc]
  split
  · have h0 := toNat_ofNat (n := v / 4096 % 0x10 + 0xE0) (by omega)
    rw [List.cons_append, List.cons_append, List.singleton_append, piecesFrom_ready_cons,
      start_of_three (by omega) (by omega), List.nil_append, piecesFrom_next,
      piecesFrom_last hlast hlast', h0, h2, h3,
      show ((v / 4096 % 0x10 + 0xE0) % 0x10 * 0x40 + (v / 64 % 0x40 + 0x80) % 0x40) * 0x40 +
        (v % 0x40 + 0x80) % 0x40 = v by omega, hc]
    -- the range of the second byte leaves out numbers below `800` and surrogates
    · apply UInt8.le_iff_toNat_le.mpr
      rw [h0, h2]
      split
      · show 0xA0 ≤ v / 64 % 0x40 + 0x80
        omega
      · exact Nat.le_add_left _ _
    · apply UInt8.le_iff_toNat_le.mpr
      rw [h0, h2]
      split
      · show v / 64 % 0x40 + 0x80 ≤ 0x9F
        omega
      · show v / 64 % 0x40 + 0x80 ≤ 0xBF
        omega
  · have h0 := toNat_ofNat (n := v / 262144 % 0x08 + 0xF0) (by omega)
    rw [List.cons_append, List.cons_append, List.cons_append, List.singleton_append,
      piecesFrom_ready_cons, start_of_four (by omega) (by omega), List.nil_append, piecesFrom_next,
      piecesFrom_next hnext hnext', piecesFrom_last hlast hlast', h0, h1, h2, h3,
      show (((v / 262144 % 0x08 + 0xF0) % 0x08 * 0x40 + (v / 4096 % 0x40 + 0x80) % 0x40) * 0x40 +
        (v / 64 % 0x40 + 0x80) % 0x40) * 0x40 + (v % 0x40 + 0x80) % 0x40 = v by omega, hc]
    -- here it leaves out numbers below `10000` and above `10FFFF`
    · apply UInt8.le_iff_toNat_le.mpr
      rw [h0, h1]
      split
      · show 0x90 ≤ v / 4096 % 0x40 + 0x80
        omega
      · exact Nat.le_add_left _ _
    · apply UInt8.le_iff_toNat_le.mpr
      rw [h0, h1]
      split
      · show v / 4096 % 0x40 + 0x80 ≤ 0x8F
        omega
      · show v / 4096 % 0x40 + 0x80 ≤ 0xBF
        omega

private theorem toNat_charOfNat {v : Nat} (h : v < 0xD800 ∨ 0xDFFF < v ∧ v < 0x110000) :
    (Char.ofNat v).val.toNat = v := by
  rw [Char.ofNat, dif_pos h]
  rfl

theorem encodeChar_of_one {b : UInt8} (h : b.toNat < 0x80) :
    String.utf8EncodeChar (Char.ofNat b.toNat) = [b] := by
  unfold String.utf8EncodeChar
  rw [toNat_charOfNat (by omega)]
  simp only
  rw [if_pos (by omega), UInt8.ofNat_toNat]

theorem encodeChar_of_two {a b : UInt8} (hlow : 0xC2 ≤ a.toNat) (hhigh : a.toNat < 0xE0)
    (hb : 0x80 ≤ b) (hb' : b ≤ 0xBF) :
    String.utf8EncodeChar (Char.ofNat (a.toNat % 0x20 * 0x40 + b.toNat % 0x40)) = [a, b] := by
  replace hb : 0x80 ≤ b.toNat := UInt8.le_iff_toNat_le.mp hb
  replace hb' : b.toNat ≤ 0xBF := UInt8.le_iff_toNat_le.mp hb'
  unfold String.utf8EncodeChar
  rw [toNat_charOfNat (by omega)]
  generalize hv : a.toNat % 0x20 * 0x40 + b.toNat % 0x40 = v
  simp only
  rw [if_neg (by omega), if_pos (by omega), show v / 64 % 0x20 + 0xC0 = a.toNat by omega,
    show v % 0x40 + 0x80 = b.toNat by omega, UInt8.ofNat_toNat, UInt8.ofNat_toNat]

private theorem toNat_le_of_ite_le {p : Prop} [Decidable p] {x y b : UInt8}
    (h : (if p then x else y) ≤ b) : p ∧ x.toNat ≤ b.toNat ∨ ¬ p ∧ y.toNat ≤ b.toNat := by
  by_cases hp : p
  · rw [if_pos hp] at h
    exact .inl ⟨hp, UInt8.le_iff_toNat_le.mp h⟩
  · rw [if_neg hp] at h
    exact .inr ⟨hp, UInt8.le_iff_toNat_le.mp h⟩

private theorem le_toNat_of_le_ite {p : Prop} [Decidable p] {x y b : UInt8}
    (h : b ≤ if p then x else y) : p ∧ b.toNat ≤ x.toNat ∨ ¬ p ∧ b.toNat ≤ y.toNat := by
  by_cases hp : p
  · rw [if_pos hp] at h
    exact .inl ⟨hp, UInt8.le_iff_toNat_le.mp h⟩
  · rw [if_neg hp] at h
    exact .inr ⟨hp, UInt8.le_iff_toNat_le.mp h⟩

theorem encodeChar_of_three {a b c : UInt8} (hlow : 0xE0 ≤ a.toNat) (hhigh : a.toNat < 0xF0)
    (hb : (if a.toNat = 0xE0 then 0xA0 else 0x80) ≤ b)
    (hb' : b ≤ if a.toNat = 0xED then 0x9F else 0xBF) (hc : 0x80 ≤ c) (hc' : c ≤ 0xBF) :
    String.utf8EncodeChar
      (Char.ofNat ((a.toNat % 0x10 * 0x40 + b.toNat % 0x40) * 0x40 + c.toNat % 0x40)) =
        [a, b, c] := by
  replace hb : a.toNat = 0xE0 ∧ 0xA0 ≤ b.toNat ∨ a.toNat ≠ 0xE0 ∧ 0x80 ≤ b.toNat :=
    toNat_le_of_ite_le hb
  replace hb' : a.toNat = 0xED ∧ b.toNat ≤ 0x9F ∨ a.toNat ≠ 0xED ∧ b.toNat ≤ 0xBF :=
    le_toNat_of_le_ite hb'
  replace hc : 0x80 ≤ c.toNat := UInt8.le_iff_toNat_le.mp hc
  replace hc' : c.toNat ≤ 0xBF := UInt8.le_iff_toNat_le.mp hc'
  unfold String.utf8EncodeChar
  rw [toNat_charOfNat (by omega)]
  generalize hv : (a.toNat % 0x10 * 0x40 + b.toNat % 0x40) * 0x40 + c.toNat % 0x40 = v
  simp only
  rw [if_neg (by omega), if_neg (by omega), if_pos (by omega),
    show v / 4096 % 0x10 + 0xE0 = a.toNat by omega, show v / 64 % 0x40 + 0x80 = b.toNat by omega,
    show v % 0x40 + 0x80 = c.toNat by omega, UInt8.ofNat_toNat, UInt8.ofNat_toNat,
    UInt8.ofNat_toNat]

theorem encodeChar_of_four {a b c d : UInt8} (hlow : 0xF0 ≤ a.toNat) (hhigh : a.toNat < 0xF5)
    (hb : (if a.toNat = 0xF0 then 0x90 else 0x80) ≤ b)
    (hb' : b ≤ if a.toNat = 0xF4 then 0x8F else 0xBF) (hc : 0x80 ≤ c) (hc' : c ≤ 0xBF)
    (hd : 0x80 ≤ d) (hd' : d ≤ 0xBF) :
    String.utf8EncodeChar
      (Char.ofNat (((a.toNat % 0x08 * 0x40 + b.toNat % 0x40) * 0x40 + c.toNat % 0x40) * 0x40 +
        d.toNat % 0x40)) = [a, b, c, d] := by
  replace hb : a.toNat = 0xF0 ∧ 0x90 ≤ b.toNat ∨ a.toNat ≠ 0xF0 ∧ 0x80 ≤ b.toNat :=
    toNat_le_of_ite_le hb
  replace hb' : a.toNat = 0xF4 ∧ b.toNat ≤ 0x8F ∨ a.toNat ≠ 0xF4 ∧ b.toNat ≤ 0xBF :=
    le_toNat_of_le_ite hb'
  replace hc : 0x80 ≤ c.toNat := UInt8.le_iff_toNat_le.mp hc
  replace hc' : c.toNat ≤ 0xBF := UInt8.le_iff_toNat_le.mp hc'
  replace hd : 0x80 ≤ d.toNat := UInt8.le_iff_toNat_le.mp hd
  replace hd' : d.toNat ≤ 0xBF := UInt8.le_iff_toNat_le.mp hd'
  unfold String.utf8EncodeChar
  rw [toNat_charOfNat (by omega)]
  generalize hv : ((a.toNat % 0x08 * 0x40 + b.toNat % 0x40) * 0x40 + c.toNat % 0x40) * 0x40 +
    d.toNat % 0x40 = v
  simp only
  rw [if_neg (by omega), if_neg (by omega), if_neg (by omega),
    show v / 262144 % 0x08 + 0xF0 = a.toNat by omega,
    show v / 4096 % 0x40 + 0x80 = b.toNat by omega, show v / 64 % 0x40 + 0x80 = c.toNat by omega,
    show v % 0x40 + 0x80 = d.toNat by omega, UInt8.ofNat_toNat, UInt8.ofNat_toNat,
    UInt8.ofNat_toNat, UInt8.ofNat_toNat]

/-! ## 4. All bytes -/

-- Inside a character the next byte has to be there, and in its range.
theorem exists_of_inside {more : Nat} {low high : UInt8} {bits : Nat} {bytes : List UInt8}
    {cs : List Char} (h : (piecesFrom (.inside more low high bits) bytes).mapM id = some cs) :
    ∃ b rest, bytes = b :: rest ∧ low ≤ b ∧ b ≤ high := by
  cases bytes with
  | nil => simp [piecesFrom] at h
  | cons b rest =>
    by_cases hb : low ≤ b ∧ b ≤ high
    · exact ⟨b, rest, rfl, hb⟩
    · simp [piecesFrom, step, hb] at h

private theorem mapM_some_cons {c : Char} {ps : List Piece} {cs : List Char}
    (h : (some c :: ps).mapM id = some cs) : ∃ cs', ps.mapM id = some cs' ∧ cs = c :: cs' := by
  cases hp : ps.mapM id with
  | none => simp [hp] at h
  | some cs' =>
    simp [hp] at h
    exact ⟨cs', rfl, h.symm⟩

-- Bytes that are read without a malformed piece begin with the bytes of a character. The first byte
-- decides how many there are.
theorem exists_char_of_pieces {a : UInt8} {rest : List UInt8} {cs : List Char}
    (h : (piecesFrom .ready (a :: rest)).mapM id = some cs) :
    ∃ c after cs', a :: rest = String.utf8EncodeChar c ++ after ∧
      (piecesFrom .ready after).mapM id = some cs' ∧ cs = c :: cs' := by
  by_cases h1 : a.toNat < 0x80
  · rw [piecesFrom_one h1] at h
    obtain ⟨cs', hafter, rfl⟩ := mapM_some_cons h
    refine ⟨_, rest, cs', ?_, hafter, rfl⟩
    rw [encodeChar_of_one h1]
    rfl
  rw [piecesFrom_ready_cons] at h
  by_cases h2 : a.toNat < 0xC2
  · rw [start_of_none (.inl ⟨by omega, h2⟩)] at h
    simp at h
  by_cases h3 : a.toNat < 0xE0
  · rw [start_of_two (by omega) h3, List.nil_append] at h
    obtain ⟨b, after, rfl, hb, hb'⟩ := exists_of_inside h
    rw [piecesFrom_last hb hb'] at h
    obtain ⟨cs', hafter, rfl⟩ := mapM_some_cons h
    refine ⟨_, after, cs', ?_, hafter, rfl⟩
    rw [encodeChar_of_two (by omega) h3 hb hb']
    rfl
  by_cases h4 : a.toNat < 0xF0
  · rw [start_of_three (by omega) h4, List.nil_append] at h
    obtain ⟨b, after, rfl, hb, hb'⟩ := exists_of_inside h
    rw [piecesFrom_next hb hb'] at h
    obtain ⟨c, after, rfl, hc, hc'⟩ := exists_of_inside h
    rw [piecesFrom_last hc hc'] at h
    obtain ⟨cs', hafter, rfl⟩ := mapM_some_cons h
    refine ⟨_, after, cs', ?_, hafter, rfl⟩
    rw [encodeChar_of_three (by omega) h4 hb hb' hc hc']
    rfl
  by_cases h5 : a.toNat < 0xF5
  · rw [start_of_four (by omega) h5, List.nil_append] at h
    obtain ⟨b, after, rfl, hb, hb'⟩ := exists_of_inside h
    rw [piecesFrom_next hb hb'] at h
    obtain ⟨c, after, rfl, hc, hc'⟩ := exists_of_inside h
    rw [piecesFrom_next hc hc'] at h
    obtain ⟨d, after, rfl, hd, hd'⟩ := exists_of_inside h
    rw [piecesFrom_last hd hd'] at h
    obtain ⟨cs', hafter, rfl⟩ := mapM_some_cons h
    refine ⟨_, after, cs', ?_, hafter, rfl⟩
    rw [encodeChar_of_four (by omega) h5 hb hb' hc hc' hd hd']
    rfl
  · rw [start_of_none (.inr (by omega))] at h
    simp at h

/-- Bytes that are read as characters are the bytes of these characters. -/
theorem eq_flatMap_of_decode? {bytes : List UInt8} {cs : List Char}
    (h : decode? bytes = some cs) : bytes = cs.flatMap String.utf8EncodeChar := by
  unfold decode? pieces at h
  induction cs generalizing bytes with
  | nil =>
    cases bytes with
    | nil => rfl
    | cons a rest =>
      obtain ⟨_, _, _, -, -, hcs⟩ := exists_char_of_pieces h
      injection hcs
  | cons c cs ih =>
    cases bytes with
    | nil =>
      injection h with hcs
      injection hcs
    | cons a rest =>
      obtain ⟨_, after, _, hbytes, hafter, hcs⟩ := exists_char_of_pieces h
      obtain ⟨rfl, rfl⟩ := List.cons.inj hcs
      rw [hbytes, List.flatMap_cons, ← ih hafter]

theorem decode?_flatMap (cs : List Char) :
    decode? (cs.flatMap String.utf8EncodeChar) = some cs := by
  unfold decode? pieces
  induction cs with
  | nil => rfl
  | cons c cs ih =>
    rw [List.flatMap_cons, piecesFrom_encodeChar, List.mapM_cons, ih]
    rfl

/-- Bytes are read as a text if and only if they are its bytes. -/
theorem decode?_eq_some_iff {bytes : List UInt8} {cs : List Char} :
    decode? bytes = some cs ↔ bytes = encode (String.ofList cs) := by
  rw [encode_ofList]
  constructor
  · exact eq_flatMap_of_decode?
  · rintro rfl
    exact decode?_flatMap cs

theorem decode?_encode (s : String) : decode? (encode s) = some s.toList :=
  decode?_eq_some_iff.mpr (by rw [String.ofList_toList])

end LoanPricing.Text.Utf8
