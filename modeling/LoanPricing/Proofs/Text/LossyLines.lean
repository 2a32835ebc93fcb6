import LoanPricing.Proofs.Text.Lines
import Mathlib.Data.List.DropRight

/-!
# Lines of bytes — a line is read as if there were no other

The byte of a line feed fits no character but the line feed. So it ends whatever the reader is
inside of, it is read wherever it stands, and what comes after it is read from between characters.
Cutting bytes at line feeds and reading each piece gives the lines of the text of all the bytes,
well-formed or not; answers are these lines in turn.
-/

namespace LoanPricing.Text

namespace Utf8

/-! ## 1. What the reader waits for -/

/-- Whatever completes the character that the reader is inside of, the byte and the character are
beyond ASCII. Its least completion decides that. -/
def State.IsBeyond : State → Prop
  | .ready => True
  | .inside more low high bits =>
    0x80 ≤ low.toNat ∧ high.toNat ≤ 0xBF ∧
      0x80 ≤ (bits * 0x40 + low.toNat % 0x40) * Nat.pow 0x40 more

/-- A byte beyond ASCII is malformed by itself, or it begins a character beyond ASCII. -/
theorem start_of_ge {b : UInt8} (h : 0x80 ≤ b.toNat) :
    start b = ([none], .ready) ∨ ∃ state, start b = ([], state) ∧ state.IsBeyond := by
  by_cases h2 : b.toNat < 0xC2
  · exact .inl (start_of_none (.inl ⟨h, h2⟩))
  by_cases h3 : b.toNat < 0xE0
  · refine .inr ⟨_, start_of_two (by omega) h3, by decide, by decide, ?_⟩
    show 0x80 ≤ (b.toNat % 0x20 * 0x40 + 0) * 1
    omega
  by_cases h4 : b.toNat < 0xF0
  · refine .inr ⟨_, start_of_three (by omega) h4, by split <;> decide, by split <;> decide, ?_⟩
    by_cases hfirst : b.toNat = 0xE0
    · rw [if_pos hfirst, hfirst]
      decide
    · rw [if_neg hfirst]
      show 0x80 ≤ (b.toNat % 0x10 * 0x40 + 0) * 0x40
      omega
  by_cases h5 : b.toNat < 0xF5
  · refine .inr ⟨_, start_of_four (by omega) h5, by split <;> decide, by split <;> decide, ?_⟩
    by_cases hfirst : b.toNat = 0xF0
    · rw [if_pos hfirst, hfirst]
      decide
    · rw [if_neg hfirst]
      show 0x80 ≤ (b.toNat % 0x08 * 0x40 + 0) * 0x1000
      omega
  · exact .inl (start_of_none (.inr (by omega)))

theorem start_isBeyond (b : UInt8) : (start b).2.IsBeyond := by
  by_cases hascii : b.toNat < 0x80
  · rw [start_of_lt hascii]
    trivial
  · rcases start_of_ge (Nat.not_lt.mp hascii) with hb | ⟨state, hb, hstate⟩
    · rw [hb]
      trivial
    · rwa [hb]

theorem piecesFrom_cons (state : State) (b : UInt8) (rest : List UInt8) :
    piecesFrom state (b :: rest) = (step state b).1 ++ piecesFrom (step state b).2 rest := by
  cases state with
  | ready => rfl
  | inside => rfl

/-- A byte that goes on with a character comes no closer to ASCII than the least one. -/
theorem least_le {low high b : UInt8} (hhigh' : high.toNat ≤ 0xBF) (hlow' : 0x80 ≤ low.toNat)
    (hlow : low ≤ b) (hhigh : b ≤ high) : low.toNat % 0x40 ≤ b.toNat % 0x40 := by
  have hlow : low.toNat ≤ b.toNat := UInt8.le_iff_toNat_le.mp hlow
  have hhigh : b.toNat ≤ high.toNat := UInt8.le_iff_toNat_le.mp hhigh
  omega

theorem step_isBeyond {state : State} (hstate : state.IsBeyond) (b : UInt8) :
    (step state b).2.IsBeyond := by
  cases state with
  | ready => exact start_isBeyond b
  | inside more low high bits =>
    obtain ⟨hlow, hhigh, hleast⟩ := hstate
    by_cases hb : low ≤ b ∧ b ≤ high
    · have hle := least_le hhigh hlow hb.1 hb.2
      cases more with
      | zero =>
        rw [step, if_pos hb]
        trivial
      | succ more =>
        -- the bits are shifted by one byte, and one byte less is to come
        have hpow : Nat.pow 0x40 (more + 1) = 0x40 * Nat.pow 0x40 more := Nat.pow_succ'
        rw [step, if_pos hb]
        refine ⟨by decide, by decide, ?_⟩
        calc 0x80
          _ ≤ (bits * 0x40 + low.toNat % 0x40) * Nat.pow 0x40 (more + 1) := hleast
          _ ≤ (bits * 0x40 + b.toNat % 0x40) * Nat.pow 0x40 (more + 1) :=
            Nat.mul_le_mul_right _ (Nat.add_le_add_left hle _)
          _ = ((bits * 0x40 + b.toNat % 0x40) * 0x40 + 0) * Nat.pow 0x40 more := by
            rw [hpow, Nat.add_zero, Nat.mul_assoc]
    · rw [step, if_neg hb]
      exact start_isBeyond b

theorem eq_of_ofNat_eq_newline {n : Nat} (h : Char.ofNat n = '\n') : n = lineFeed.toNat := by
  by_cases hvalid : n.isValidChar
  · rw [Char.ofNat, dif_pos hvalid] at h
    exact congrArg Char.toNat h
  · rw [Char.ofNat, dif_neg hvalid] at h
    exact absurd h (by decide)

/-- A line feed is completed by its byte only. -/
theorem eq_lineFeed_of_mem_start {b : UInt8} (h : some '\n' ∈ (start b).1) : b = lineFeed := by
  by_cases hascii : b.toNat < 0x80
  · rw [start_of_lt hascii, List.mem_singleton, Option.some.injEq] at h
    exact UInt8.toNat_inj.mp (eq_of_ofNat_eq_newline h.symm)
  · rcases start_of_ge (Nat.not_lt.mp hascii) with hb | ⟨state, hb, -⟩
    · rw [hb] at h
      exact absurd (List.mem_singleton.mp h) (Option.some_ne_none _)
    · rw [hb] at h
      exact absurd h List.not_mem_nil

theorem eq_lineFeed_of_mem_step {state : State} (hstate : state.IsBeyond) {b : UInt8}
    (h : some '\n' ∈ (step state b).1) : b = lineFeed := by
  cases state with
  | ready => exact eq_lineFeed_of_mem_start h
  | inside more low high bits =>
    obtain ⟨hlow, hhigh, hleast⟩ := hstate
    by_cases hb : low ≤ b ∧ b ≤ high
    · have hle := least_le hhigh hlow hb.1 hb.2
      rw [step, if_pos hb] at h
      cases more with
      | zero =>
        -- the character is complete, and it is beyond ASCII
        rw [List.mem_singleton, Option.some.injEq] at h
        have hvalue := eq_of_ofNat_eq_newline h.symm
        have : lineFeed.toNat = 0x0A := rfl
        have hone : Nat.pow 0x40 0 = 1 := rfl
        rw [hone, Nat.mul_one] at hleast
        omega
      | succ more => exact absurd h List.not_mem_nil
    · rw [step, if_neg hb] at h
      exact eq_lineFeed_of_mem_start ((List.mem_cons.mp h).resolve_left (Option.some_ne_none _))

theorem lineFeed_mem_of_mem_piecesFrom {bytes : List UInt8} {state : State}
    (hstate : state.IsBeyond) (h : some '\n' ∈ piecesFrom state bytes) : lineFeed ∈ bytes := by
  induction bytes generalizing state with
  | nil =>
    cases state with
    | ready => exact absurd h List.not_mem_nil
    | inside => exact absurd (List.mem_singleton.mp h) (Option.some_ne_none _)
  | cons b rest ih =>
    rw [piecesFrom_cons] at h
    rcases List.mem_append.mp h with h | h
    · rw [eq_lineFeed_of_mem_step hstate h]
      exact List.mem_cons_self
    · exact List.mem_cons_of_mem b (ih (step_isBeyond hstate b) h)

/-! ## 2. What comes after a line feed -/

theorem piecesFrom_lineFeed {state : State} (hstate : state.IsBeyond) (rest : List UInt8) :
    piecesFrom state (lineFeed :: rest) =
      piecesFrom state [] ++ some '\n' :: piecesFrom .ready rest := by
  cases state with
  | ready => rfl
  | inside more low high bits =>
    -- the character is broken off, and the line feed is read as the first byte of the next one
    have hlow : ¬ low ≤ lineFeed := by
      intro hle
      have hle : low.toNat ≤ 0x0A := UInt8.le_iff_toNat_le.mp hle
      have := hstate.1
      omega
    rw [piecesFrom_cons, step, if_neg fun hb => hlow hb.1]
    rfl

/-- A line feed ends what comes before it, and what comes after it is read from the start. -/
theorem piecesFrom_append_lineFeed {state : State} (hstate : state.IsBeyond)
    (line rest : List UInt8) :
    piecesFrom state (line ++ lineFeed :: rest) =
      piecesFrom state line ++ some '\n' :: piecesFrom .ready rest := by
  induction line generalizing state with
  | nil => exact piecesFrom_lineFeed hstate rest
  | cons b line ih =>
    rw [List.cons_append, piecesFrom_cons, piecesFrom_cons, ih (step_isBeyond hstate b),
      List.append_assoc]

theorem decodeLossy_append_lineFeed (line rest : List UInt8) :
    decodeLossy (line ++ lineFeed :: rest) = decodeLossy line ++ '\n' :: decodeLossy rest := by
  unfold decodeLossy pieces
  rw [@piecesFrom_append_lineFeed .ready trivial, List.map_append, List.map_cons]
  rfl

theorem newline_not_mem_decodeLossy {bytes : List UInt8} (h : lineFeed ∉ bytes) :
    '\n' ∉ decodeLossy bytes := by
  intro hmem
  obtain ⟨piece, hpiece, hchar⟩ := List.mem_map.mp hmem
  cases piece with
  | none => exact absurd hchar (by decide)
  | some c =>
    obtain rfl : c = '\n' := hchar
    exact h (@lineFeed_mem_of_mem_piecesFrom bytes .ready trivial hpiece)

end Utf8

/-! ## 3. Lines -/

/-- Bytes are a last line, or a line and its line feed before other bytes. -/
@[elab_as_elim]
theorem lines_induction {motive : List UInt8 → Prop}
    (last : ∀ line, lineFeed ∉ line → motive line)
    (next : ∀ line rest, lineFeed ∉ line → motive rest → motive (line ++ lineFeed :: rest))
    (bytes : List UInt8) : motive bytes := by
  by_cases hmem : lineFeed ∈ bytes
  · obtain ⟨line, rest, hbytes, hline⟩ := List.eq_append_cons_of_mem hmem
    have hlt : rest.length < bytes.length := by
      rw [hbytes, List.length_append, List.length_cons]
      omega
    exact hbytes ▸ next line rest hline (lines_induction last next rest)
  · exact last bytes hmem
termination_by bytes.length

/-- Reading line by line gives the lines of what is read at once. -/
theorem splitOn_decodeLossy (bytes : List UInt8) :
    (Utf8.decodeLossy bytes).splitOn '\n' =
      (bytes.splitOn lineFeed).map Utf8.decodeLossy := by
  induction bytes using lines_induction with
  | last line h =>
    rw [List.splitOn_eq_singleton h,
      List.splitOn_eq_singleton (Utf8.newline_not_mem_decodeLossy h), List.map_singleton]
  | next line rest h ih =>
    rw [Utf8.decodeLossy_append_lineFeed, List.splitOn_append_cons_self, ih,
      List.splitOn_append_cons_self, List.map_append, List.splitOn_eq_singleton h,
      List.splitOn_eq_singleton (Utf8.newline_not_mem_decodeLossy h), List.map_singleton]

/-- The line of a text with a number, which is zero for the first one. Past the end of the text
lines are empty. -/
def lineAt (text : List Char) (i : Nat) : List Char :=
  (text.splitOn '\n').getD i []

/-- A line without the carriage returns at its end. -/
def lineText (line : List Char) : String :=
  String.ofList (line.rdropWhile (· == '\r'))

section

variable {line : List UInt8} (h : lineFeed ∉ line) (rest : List UInt8)
include h

theorem lineAt_next_zero :
    lineAt (Utf8.decodeLossy (line ++ lineFeed :: rest)) 0 = Utf8.decodeLossy line := by
  rw [lineAt, splitOn_decodeLossy, List.splitOn_append_cons_self, List.splitOn_eq_singleton h]
  rfl

theorem lineAt_next_succ (i : Nat) :
    lineAt (Utf8.decodeLossy (line ++ lineFeed :: rest)) (i + 1) =
      lineAt (Utf8.decodeLossy rest) i := by
  rw [lineAt, lineAt, splitOn_decodeLossy, List.splitOn_append_cons_self,
    List.splitOn_eq_singleton h, splitOn_decodeLossy]
  rfl

theorem lineAt_last_zero : lineAt (Utf8.decodeLossy line) 0 = Utf8.decodeLossy line := by
  rw [lineAt, splitOn_decodeLossy, List.splitOn_eq_singleton h]
  rfl

theorem lineAt_last_succ (i : Nat) : lineAt (Utf8.decodeLossy line) (i + 1) = [] := by
  rw [lineAt, splitOn_decodeLossy, List.splitOn_eq_singleton h]
  rfl

end

theorem lineAt_nil (i : Nat) : lineAt [] i = [] := by
  cases i with
  | zero => rfl
  | succ i => rfl

/-! ## 4. Answers -/

theorem splitLine_last {line : List UInt8} (h : lineFeed ∉ line) : splitLine line = (line, []) := by
  induction line with
  | nil => rfl
  | cons b line ih =>
    have hb : b ≠ lineFeed := fun heq => h (heq ▸ List.mem_cons_self)
    rw [splitLine, if_neg hb, ih fun hmem => h (List.mem_cons_of_mem b hmem)]

theorem dropWhile_lineEnds {cs : List Char} (h : '\n' ∉ cs) :
    (cs.dropWhile fun c => c == '\r' || c == '\n') = cs.dropWhile (· == '\r') := by
  induction cs with
  | nil => rfl
  | cons c cs ih =>
    have hc : (c == '\n') = false := beq_eq_false_iff_ne.mpr fun heq => h (heq ▸ List.mem_cons_self)
    rw [List.dropWhile_cons, List.dropWhile_cons, hc, Bool.or_false,
      ih fun hmem => h (List.mem_cons_of_mem c hmem)]

theorem dropLineEnds_last {cs : List Char} (h : '\n' ∉ cs) :
    dropLineEnds cs = cs.rdropWhile (· == '\r') := by
  rw [dropLineEnds, dropWhile_lineEnds fun hmem => h (List.mem_reverse.mp hmem)]
  rfl

theorem dropLineEnds_next {cs : List Char} (h : '\n' ∉ cs) :
    dropLineEnds (cs ++ ['\n']) = cs.rdropWhile (· == '\r') := by
  rw [← dropLineEnds_last h, dropLineEnds, List.reverse_append]
  rfl

/-- The answer from bytes with a line feed is the line before it. -/
theorem nextAnswer_next {line : List UInt8} (h : lineFeed ∉ line) (rest : List UInt8) :
    nextAnswer (line ++ lineFeed :: rest) = (lineText (Utf8.decodeLossy line), rest) := by
  have hread : Utf8.decodeLossy (line ++ [lineFeed]) = Utf8.decodeLossy line ++ ['\n'] :=
    Utf8.decodeLossy_append_lineFeed line []
  unfold nextAnswer
  rw [splitLine_of_not_mem h]
  simp only
  rw [hread, dropLineEnds_next (Utf8.newline_not_mem_decodeLossy h)]
  rfl

/-- The answer from bytes without a line feed is all there is. -/
theorem nextAnswer_last {line : List UInt8} (h : lineFeed ∉ line) :
    nextAnswer line = (lineText (Utf8.decodeLossy line), []) := by
  unfold nextAnswer
  rw [splitLine_last h]
  simp only
  rw [dropLineEnds_last (Utf8.newline_not_mem_decodeLossy h)]
  rfl

/-- The next answer is the first line, and what is left has the lines after it. -/
theorem nextAnswer_lines (bytes : List UInt8) :
    (nextAnswer bytes).1 = lineText (lineAt (Utf8.decodeLossy bytes) 0) ∧
      ∀ i, lineAt (Utf8.decodeLossy (nextAnswer bytes).2) i =
        lineAt (Utf8.decodeLossy bytes) (i + 1) := by
  by_cases hmem : lineFeed ∈ bytes
  · obtain ⟨line, rest, rfl, hline⟩ := List.eq_append_cons_of_mem hmem
    rw [nextAnswer_next hline, lineAt_next_zero hline]
    exact ⟨rfl, fun i => (lineAt_next_succ hline rest i).symm⟩
  · rw [nextAnswer_last hmem, lineAt_last_zero hmem]
    exact ⟨rfl, fun i => (lineAt_nil i).trans (lineAt_last_succ hmem i).symm⟩

/-! ## 5. Bytes that are used up -/

/-- The bytes that are taken go up to the `n`-th line feed, with it, or to the end if there are not
so many. -/
structure IsThrough (n : Nat) (bytes taken rest : List UInt8) : Prop where
  append : taken ++ rest = bytes
  reached : n ≤ bytes.count lineFeed → taken.count lineFeed = n ∧
    taken.getLast? = if n = 0 then none else some lineFeed
  ended : bytes.count lineFeed < n → rest = []

namespace IsThrough

theorem zero (bytes : List UInt8) : IsThrough 0 bytes [] bytes where
  append := rfl
  reached _ := ⟨rfl, rfl⟩
  ended h := absurd h (Nat.not_lt_zero _)

variable {n : Nat} {line taken left : List UInt8}

theorem next (hline : lineFeed ∉ line) {rest : List UInt8} (h : IsThrough n rest taken left) :
    IsThrough (n + 1) (line ++ lineFeed :: rest) (line ++ lineFeed :: taken) left := by
  have hcount (bytes : List UInt8) :
      (line ++ lineFeed :: bytes).count lineFeed = bytes.count lineFeed + 1 := by
    rw [List.count_append, List.count_eq_zero.mpr hline, List.count_cons_self, Nat.zero_add]
  refine ⟨by rw [← h.append, List.append_assoc, List.cons_append], fun hn => ?_, fun hn => ?_⟩
  · rw [hcount] at hn
    obtain ⟨htaken, hlast⟩ := h.reached (Nat.le_of_succ_le_succ hn)
    refine ⟨by rw [hcount, htaken], ?_⟩
    rw [List.getLast?_append, List.getLast?_cons, hlast, if_neg (Nat.succ_ne_zero n)]
    split <;> rfl
  · rw [hcount] at hn
    exact h.ended (Nat.lt_of_succ_lt_succ hn)

theorem last (hline : lineFeed ∉ line) (h : IsThrough n [] taken left) :
    IsThrough (n + 1) line line left := by
  have hleft : left = [] := (List.append_eq_nil_iff.mp h.append).2
  have hcount : line.count lineFeed = 0 := List.count_eq_zero.mpr hline
  refine ⟨by rw [hleft, List.append_nil], fun hn => ?_, fun _ => hleft⟩
  rw [hcount] at hn
  exact absurd hn (Nat.not_succ_le_zero n)

end IsThrough

/-- An answer uses up one line more. -/
theorem exists_isThrough_nextAnswer {n : Nat} {bytes taken left : List UInt8}
    (h : IsThrough n (nextAnswer bytes).2 taken left) :
    ∃ taken, IsThrough (n + 1) bytes taken left := by
  by_cases hmem : lineFeed ∈ bytes
  · obtain ⟨line, rest, rfl, hline⟩ := List.eq_append_cons_of_mem hmem
    rw [nextAnswer_next hline] at h
    exact ⟨_, h.next hline⟩
  · rw [nextAnswer_last hmem] at h
    exact ⟨_, h.last hmem⟩

end LoanPricing.Text
