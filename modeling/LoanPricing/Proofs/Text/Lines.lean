import LoanPricing.Proofs.Text.Utf8
import LoanPricing.Text.Lines

/-!
# Lines of a text — an answer is the text that was typed

The byte of a line feed is in the encoding of a text only where the text has a line feed. So a text
without one is a line once it is ended by one, and what is read of the line is the text, the line
end aside.
-/

namespace LoanPricing.Text

/-! ## 1. Bytes of a text -/

theorem lineFeed_ne_ofNat {n : Nat} (hlow : 0x80 ≤ n) (hhigh : n < 0x100) :
    lineFeed ≠ UInt8.ofNat n := by
  intro h
  have hn : (UInt8.ofNat n).toNat = n := UInt8.toNat_ofNat_of_lt' hhigh
  rw [← h] at hn
  have : lineFeed.toNat = 0x0A := rfl
  omega

/-- Only a line feed has the byte of one: every byte of a character beyond ASCII is beyond it. -/
theorem eq_newline_of_lineFeed_mem {c : Char} (h : lineFeed ∈ String.utf8EncodeChar c) :
    c = '\n' := by
  have hc : Char.ofNat c.val.toNat = c := Char.ofNat_toNat c
  unfold String.utf8EncodeChar at h
  generalize c.val.toNat = v at h hc
  simp only at h
  split at h
  · have hv : (UInt8.ofNat v).toNat = v := UInt8.toNat_ofNat_of_lt' (by show v < 256; omega)
    rw [← List.mem_singleton.mp h] at hv
    rw [← hc, ← hv]
    rfl
  split at h
  · simp only [List.mem_cons, List.not_mem_nil, or_false] at h
    rcases h with h | h <;> exact absurd h (lineFeed_ne_ofNat (by omega) (by omega))
  split at h
  · simp only [List.mem_cons, List.not_mem_nil, or_false] at h
    rcases h with h | h | h <;> exact absurd h (lineFeed_ne_ofNat (by omega) (by omega))
  · simp only [List.mem_cons, List.not_mem_nil, or_false] at h
    rcases h with h | h | h | h <;> exact absurd h (lineFeed_ne_ofNat (by omega) (by omega))

theorem lineFeed_not_mem_encode {s : String} (h : '\n' ∉ s.toList) :
    lineFeed ∉ Utf8.encode s := by
  rw [← String.ofList_toList (s := s), Utf8.encode_ofList]
  intro hmem
  obtain ⟨c, hc, hbyte⟩ := List.mem_flatMap.mp hmem
  exact h (eq_newline_of_lineFeed_mem hbyte ▸ hc)

/-- Tolerant reading of the bytes of a text gives the text. -/
theorem decodeLossy_flatMap (cs : List Char) :
    Utf8.decodeLossy (cs.flatMap String.utf8EncodeChar) = cs := by
  unfold Utf8.decodeLossy Utf8.pieces
  induction cs with
  | nil => rfl
  | cons c cs ih =>
    rw [List.flatMap_cons, Utf8.piecesFrom_encodeChar, List.map_cons, ih]
    rfl

/-! ## 2. Lines -/

theorem splitLine_of_not_mem {line : List UInt8} (h : lineFeed ∉ line) (rest : List UInt8) :
    splitLine (line ++ lineFeed :: rest) = (line ++ [lineFeed], rest) := by
  induction line with
  | nil => simp [splitLine]
  | cons b line ih =>
    have hb : b ≠ lineFeed := fun heq => h (heq ▸ List.mem_cons_self)
    rw [List.cons_append, splitLine, if_neg hb,
      ih fun hmem => h (List.mem_cons_of_mem b hmem)]
    rfl

/-- A text that can be a line: no line feed in it, and no carriage return at its end. -/
def IsLine (s : String) : Prop :=
  '\n' ∉ s.toList ∧ s.toList.getLast? ≠ some '\r'

instance (s : String) : Decidable (IsLine s) :=
  inferInstanceAs (Decidable (_ ∧ _))

/-- How a line may end. -/
inductive LineEnd where
  | lf
  | crlf
  deriving DecidableEq, Repr

def LineEnd.chars : LineEnd → List Char
  | .lf => ['\n']
  | .crlf => ['\r', '\n']

/-- The bytes of a line. -/
def lineBytes (s : String) (ending : LineEnd) : List UInt8 :=
  Utf8.encode s ++ ending.chars.flatMap String.utf8EncodeChar

theorem dropLineEnds_append {cs : List Char} (hlf : '\n' ∉ cs) (hcr : cs.getLast? ≠ some '\r')
    (ending : LineEnd) : dropLineEnds (cs ++ ending.chars) = cs := by
  unfold dropLineEnds
  have hends : ∀ c ∈ ending.chars.reverse, (c == '\r' || c == '\n') = true :=
    List.all_eq_true.mp (by cases ending <;> rfl)
  rw [List.reverse_append, List.dropWhile_append_of_pos hends]
  cases hlast : cs.reverse with
  | nil => rw [List.reverse_eq_nil_iff.mp hlast]; rfl
  | cons c tail =>
    have hc : cs.getLast? = some c := by
      rw [← List.head?_reverse, hlast]
      rfl
    have hne : (c == '\r' || c == '\n') = false := by
      rw [Bool.or_eq_false_iff, beq_eq_false_iff_ne, beq_eq_false_iff_ne]
      constructor
      · rintro rfl
        exact hcr hc
      · rintro rfl
        exact hlf (List.mem_of_getLast? hc)
    rw [List.dropWhile_cons, hne, if_neg (by decide), ← hlast, List.reverse_reverse]

/-- **An answer is the text that was typed**, however its line ends and whatever follows. -/
theorem nextAnswer_lineBytes {s : String} (h : IsLine s) (ending : LineEnd) (rest : List UInt8) :
    nextAnswer (lineBytes s ending ++ rest) = (s, rest) := by
  obtain ⟨bytes, hbytes, hnot⟩ : ∃ bytes, lineBytes s ending = bytes ++ [lineFeed] ∧
      lineFeed ∉ bytes := by
    have hs := lineFeed_not_mem_encode h.1
    cases ending with
    | lf => exact ⟨Utf8.encode s, rfl, hs⟩
    | crlf =>
      refine ⟨Utf8.encode s ++ [0x0D], by rw [List.append_assoc]; rfl, fun hmem => ?_⟩
      rcases List.mem_append.mp hmem with hmem | hmem
      · exact hs hmem
      · exact absurd (List.mem_singleton.mp hmem) (by decide)
  have hsplit : splitLine (lineBytes s ending ++ rest) = (lineBytes s ending, rest) := by
    rw [hbytes, List.append_assoc, List.singleton_append, splitLine_of_not_mem hnot]
  have htext : Utf8.decodeLossy (lineBytes s ending) = s.toList ++ ending.chars := by
    rw [lineBytes, ← String.ofList_toList (s := s), Utf8.encode_ofList, ← List.flatMap_append,
      decodeLossy_flatMap, String.ofList_toList]
  unfold nextAnswer
  rw [hsplit]
  simp only
  rw [htext, dropLineEnds_append h.1 h.2, String.ofList_toList]

end LoanPricing.Text
