import LoanPricing.CommandLine.Run
import LoanPricing.Proofs.Json.Members
import LoanPricing.Proofs.Json.NumberText
import Mathlib.Data.List.TakeWhile

/-!
# Texts of credit scores — which ones are numbers

A credit score is typed with white space around it or without. What is left without it has to be a
numeral: a sign if there is one, and digits, as many as one likes, that spell a number which fits 32
bits. Nothing else is taken for a number, and what is refused is quoted as it was typed.
-/

namespace LoanPricing

namespace Text

/-! ## 1. White space at both ends -/

/-- What is left of a text when the white space at both of its ends is taken away. -/
structure IsStripped (text core : List Char) : Prop where
  exists_around : ∃ before after, text = before ++ (core ++ after) ∧
    (∀ c ∈ before, isBlank c = true) ∧ ∀ c ∈ after, isBlank c = true
  head : ∀ c, core.head? = some c → isBlank c = false
  last : ∀ c, core.getLast? = some c → isBlank c = false

theorem dropWhile_eq_self {p : Char → Bool} {cs : List Char}
    (h : ∀ c, cs.head? = some c → p c = false) : cs.dropWhile p = cs := by
  cases cs with
  | nil => rfl
  | cons c cs => rw [List.dropWhile_cons, h c rfl, if_neg Bool.false_ne_true]

theorem head_dropWhile {p : Char → Bool} {cs : List Char} {c : Char}
    (h : (cs.dropWhile p).head? = some c) : p c = false := by
  have hnot := List.head?_dropWhile_not p cs
  rw [h] at hnot
  exact hnot

/-- White space at the end is dropped up to the last character that is none. -/
theorem dropBlanksRight_append {core after : List Char} (hafter : ∀ c ∈ after, isBlank c = true)
    (hlast : ∀ c, core.getLast? = some c → isBlank c = false) :
    dropBlanksRight (core ++ after) = core := by
  have hreverse : ∀ c ∈ after.reverse, isBlank c = true :=
    fun c hc => hafter c (List.mem_reverse.mp hc)
  have hhead : ∀ c, core.reverse.head? = some c → isBlank c = false := by
    intro c hc
    rw [List.head?_reverse] at hc
    exact hlast c hc
  rw [dropBlanksRight, List.reverse_append, List.dropWhile_append_of_pos hreverse,
    dropWhile_eq_self hhead, List.reverse_reverse]

/-- There is one way only to strip a text. -/
theorem IsStripped.eq_trim {text core : List Char} (h : IsStripped text core) : core = trim text := by
  obtain ⟨⟨before, after, rfl, hbefore, hafter⟩, hhead, hlast⟩ := h
  rw [trim, List.dropWhile_append_of_pos hbefore]
  cases core with
  | nil =>
    have hnone : after.dropWhile isBlank = [] := by
      rw [← List.append_nil after, List.dropWhile_append_of_pos hafter, List.dropWhile_nil]
    rw [List.nil_append, hnone]
    rfl
  | cons c core =>
    have hself : (c :: core ++ after).dropWhile isBlank = c :: core ++ after :=
      dropWhile_eq_self fun d hd => hhead d hd
    rw [hself, dropBlanksRight_append hafter hlast]

theorem isStripped_trim (text : List Char) : IsStripped text (trim text) := by
  obtain ⟨rest, hrest⟩ : ∃ rest, text.dropWhile isBlank = rest := ⟨_, rfl⟩
  have hsplit : trim text ++ (rest.reverse.takeWhile isBlank).reverse = rest := by
    rw [trim, hrest, dropBlanksRight, ← List.reverse_append, List.takeWhile_append_dropWhile,
      List.reverse_reverse]
  refine ⟨⟨text.takeWhile isBlank, (rest.reverse.takeWhile isBlank).reverse, ?_, ?_, ?_⟩, ?_, ?_⟩
  · rw [hsplit, ← hrest, List.takeWhile_append_dropWhile]
  · exact fun c hc => List.mem_takeWhile_imp hc
  · exact fun c hc => List.mem_takeWhile_imp (List.mem_reverse.mp hc)
  · intro c hc
    -- the first character of what is left is the first one that is no white space
    have hhead : (text.dropWhile isBlank).head? = some c := by
      rw [hrest, ← hsplit, List.head?_append, hc, Option.some_or]
    exact head_dropWhile hhead
  · intro c hc
    rw [trim, dropBlanksRight, List.getLast?_reverse] at hc
    exact head_dropWhile hc

/-! ## 2. Numerals -/

/-- One or more of the digits `0` to `9`. -/
def IsDecimal (digits : List Char) : Prop :=
  digits ≠ [] ∧ ∀ c ∈ digits, c.isDigit = true

/-- The whole number that a numeral spells: decimal digits, with one sign before them or none. -/
inductive Spells : List Char → Int → Prop
  | unsigned {digits : List Char} (h : IsDecimal digits) :
      Spells digits (Nat.ofDigitChars 10 digits 0)
  | plus {digits : List Char} (h : IsDecimal digits) :
      Spells ('+' :: digits) (Nat.ofDigitChars 10 digits 0)
  | minus {digits : List Char} (h : IsDecimal digits) :
      Spells ('-' :: digits) (-(Nat.ofDigitChars 10 digits 0 : Int))

theorem isDigit_eq (c : Char) : isDigit c = c.isDigit := by
  rw [Json.isDigit_eq_isSome, digit?, Char.isDigit, ← Bool.decide_and]
  by_cases h : '0' ≤ c ∧ c ≤ '9'
  · have hbounds : c.val ≥ '0'.val ∧ c.val ≤ '9'.val := h
    rw [if_pos h, decide_eq_true hbounds]
    rfl
  · have hbounds : ¬ (c.val ≥ '0'.val ∧ c.val ≤ '9'.val) := h
    rw [if_neg h, decide_eq_false hbounds]
    rfl

theorem natOn?_of_not_isDigit {digits : List Char} {c : Char} (hmem : c ∈ digits)
    (hc : isDigit c = false) (acc : Nat) : natOn? 10 digit? acc digits = none := by
  induction digits generalizing acc with
  | nil => exact absurd hmem List.not_mem_nil
  | cons d digits ih =>
    rw [natOn?]
    cases hd : digit? d with
    | none => rfl
    | some value =>
      have hne : c ≠ d := by
        rintro rfl
        rw [Json.digit?_eq_none hc] at hd
        injection hd
      exact ih ((List.mem_cons.mp hmem).resolve_left hne) _

theorem nat?_eq_some_iff {digits : List Char} {n : Nat} :
    nat? digits = some n ↔ IsDecimal digits ∧ Nat.ofDigitChars 10 digits 0 = n := by
  by_cases hnil : digits = []
  · rw [hnil, nat?_nil]
    constructor
    · intro h
      injection h
    · rintro ⟨⟨hne, -⟩, -⟩
      exact absurd rfl hne
  have hnat : nat? digits = natOn? 10 digit? 0 digits := by
    obtain ⟨c, tail, rfl⟩ := List.exists_cons_of_ne_nil hnil
    rfl
  rw [hnat]
  -- the digits are all read, or the first other character ends it
  by_cases hall : ∀ c ∈ digits, isDigit c = true
  · rw [Json.natOn?_of_isDigit hall, Option.some.injEq]
    have hdecimal : IsDecimal digits := ⟨hnil, fun c hc => isDigit_eq c ▸ hall c hc⟩
    exact ⟨fun h => ⟨hdecimal, h⟩, And.right⟩
  · obtain ⟨c, hmem, hc⟩ : ∃ c ∈ digits, ¬ isDigit c = true := by
      simpa only [not_forall, exists_prop] using hall
    rw [natOn?_of_not_isDigit hmem (Bool.not_eq_true _ ▸ hc)]
    constructor
    · intro h
      injection h
    · rintro ⟨⟨-, hdigits⟩, -⟩
      exact absurd (isDigit_eq c ▸ hdigits c hmem) hc

theorem map_nat?_eq_some_iff {digits : List Char} {f : Nat → Int} {n : Int} :
    (nat? digits).map f = some n ↔ IsDecimal digits ∧ f (Nat.ofDigitChars 10 digits 0) = n := by
  rw [Option.map_eq_some_iff]
  constructor
  · rintro ⟨m, hm, rfl⟩
    obtain ⟨hdecimal, rfl⟩ := nat?_eq_some_iff.mp hm
    exact ⟨hdecimal, rfl⟩
  · rintro ⟨hdecimal, rfl⟩
    exact ⟨_, nat?_eq_some_iff.mpr ⟨hdecimal, rfl⟩, rfl⟩

/-- A sign is no digit, so that a numeral with one is read after it. -/
theorem IsDecimal.head_ne {digits : List Char} (h : IsDecimal digits) {sign : Char}
    (hsign : sign.isDigit = false) (rest : List Char) : digits ≠ sign :: rest := by
  rintro rfl
  have hdigit := h.2 sign List.mem_cons_self
  rw [hsign] at hdigit
  injection hdigit

theorem int?_minus (cs : List Char) :
    int? ('-' :: cs) = (nat? cs).map fun n : Nat => -(n : Int) := by
  rw [int?]
  cases nat? cs with
  | none => rfl
  | some n => rfl

/-- The whole number that is read from a text is the one that the text spells. -/
theorem int?_eq_some_iff {cs : List Char} {n : Int} : int? cs = some n ↔ Spells cs n := by
  constructor
  · intro h
    unfold int? at h
    split at h
    · obtain ⟨hdecimal, rfl⟩ := map_nat?_eq_some_iff.mp h
      exact .plus hdecimal
    · rename_i digits
      obtain ⟨hdecimal, rfl⟩ := map_nat?_eq_some_iff.mp ((int?_minus digits).symm.trans h)
      exact .minus hdecimal
    · obtain ⟨hdecimal, rfl⟩ := map_nat?_eq_some_iff.mp h
      exact .unsigned hdecimal
  · intro h
    cases h with
    | unsigned hdecimal =>
      have hread : int? cs = (nat? cs).map Int.ofNat :=
        int?.eq_3 cs (hdecimal.head_ne rfl) (hdecimal.head_ne rfl)
      rw [hread]
      exact map_nat?_eq_some_iff.mpr ⟨hdecimal, rfl⟩
    | plus hdecimal => exact map_nat?_eq_some_iff.mpr ⟨hdecimal, rfl⟩
    | minus hdecimal => exact (int?_minus _).trans (map_nat?_eq_some_iff.mpr ⟨hdecimal, rfl⟩)

/-- A text is read as a number of 32 bits if and only if it spells it. -/
theorem int32?_eq_some_iff {cs : List Char} {score : Int32} :
    int32? cs = some score ↔ Spells cs score.toInt := by
  have hrange : Int32.minValue.toInt ≤ score.toInt ∧ score.toInt ≤ Int32.maxValue.toInt :=
    ⟨score.minValue_le_toInt, score.toInt_le⟩
  rw [int32?, Option.map_eq_some_iff]
  constructor
  · rintro ⟨n, hn, hscore⟩
    rw [intWithin?, Option.filter_eq_some_iff, Bool.and_eq_true, decide_eq_true_eq,
      decide_eq_true_eq] at hn
    obtain ⟨hn, hwithin⟩ := hn
    rw [← (Json.int32_ofInt_eq_iff hwithin).mp hscore]
    exact int?_eq_some_iff.mp hn
  · intro h
    refine ⟨score.toInt, ?_, Int32.ofInt_toInt score⟩
    rw [intWithin?, Option.filter_eq_some_iff, Bool.and_eq_true, decide_eq_true_eq,
      decide_eq_true_eq]
    exact ⟨int?_eq_some_iff.mpr h, hrange⟩

theorem spells_ofInt (n : Int) : Spells (ofInt n) n :=
  int?_eq_some_iff.mp (Json.int?_ofInt n)

theorem isBlank_of_isDigit {c : Char} (h : c.isDigit = true) : isBlank c = false := by
  rw [Char.isDigit, Bool.and_eq_true, decide_eq_true_eq, decide_eq_true_eq] at h
  have hlow : 0x30 ≤ c.toNat := h.1
  have hhigh : c.toNat ≤ 0x39 := h.2
  simp only [isBlank, Bool.or_eq_false_iff, Bool.and_eq_false_iff, decide_eq_false_iff_not,
    beq_eq_false_iff_ne]
  omega

/-- There is no white space in the decimal text of a number. -/
theorem isBlank_of_mem_ofInt {n : Int} {c : Char} (h : c ∈ ofInt n) : isBlank c = false := by
  unfold ofInt at h
  split at h
  · rcases List.mem_cons.mp h with rfl | h
    · rfl
    · exact isBlank_of_isDigit (Decimal.mem_ofNat h)
  · exact isBlank_of_isDigit (Decimal.mem_ofNat h)

end Text

namespace CommandLine

/-! ## 3. Credit scores -/

/-- A text spells a number that a credit score can be, white space around it aside. -/
def SpellsScore (text : String) (n : Int) : Prop :=
  ∃ core, Text.IsStripped text.toList core ∧ Text.Spells core n ∧ -0x80000000 ≤ n ∧ n ≤ 0x7FFFFFFF

theorem parseCreditScore_eq_ok_iff {text : String} {score : Int32} :
    parseCreditScore text = .ok score ↔
      Text.int32? (Text.trim text.toList) = some score := by
  unfold parseCreditScore
  cases Text.int32? (Text.trim text.toList) with
  | none => exact ⟨nofun, nofun⟩
  | some n => rw [Except.ok.injEq, Option.some.injEq]

/-- What is no credit score is quoted as it was typed. -/
theorem parseCreditScore_cases (text : String) :
    (∃ score, parseCreditScore text = .ok score) ∨
      parseCreditScore text =
        .error (.invalidInput ("credit score '" ++ text ++ "' is not a number")) := by
  unfold parseCreditScore
  cases Text.int32? (Text.trim text.toList) with
  | none => exact .inr rfl
  | some n => exact .inl ⟨n, rfl⟩

theorem exists_parseCreditScore_iff {text : String} {n : Int} :
    (∃ score, parseCreditScore text = .ok score ∧ score.toInt = n) ↔ SpellsScore text n := by
  constructor
  · rintro ⟨score, hscore, rfl⟩
    have hspells := Text.int32?_eq_some_iff.mp (parseCreditScore_eq_ok_iff.mp hscore)
    exact ⟨_, Text.isStripped_trim text.toList, hspells, score.minValue_le_toInt, score.toInt_le⟩
  · rintro ⟨core, hstripped, hspells, hlow, hhigh⟩
    have hvalue : (Int32.ofInt n).toInt = n := ((Json.int32_ofInt_eq_iff ⟨hlow, hhigh⟩).mp rfl).symm
    rw [hstripped.eq_trim, ← hvalue] at hspells
    exact ⟨_, parseCreditScore_eq_ok_iff.mpr (Text.int32?_eq_some_iff.mpr hspells), hvalue⟩

/-- **A text is a credit score if and only if it is a numeral**, white space around it aside, of a
number that fits 32 bits. Every other text is refused as it stands. In particular the decimal text
of a score is read back, whatever white space is around it. -/
theorem parseCreditScore_numerals :
    (∀ (text : String) (n : Int),
      (∃ score, parseCreditScore text = .ok score ∧ score.toInt = n) ↔ SpellsScore text n) ∧
    (∀ text : String, (∀ n, ¬ SpellsScore text n) →
      parseCreditScore text =
        .error (.invalidInput ("credit score '" ++ text ++ "' is not a number"))) ∧
    ∀ (score : Int32) (before after : List Char),
      (∀ c ∈ before, Text.isBlank c = true) → (∀ c ∈ after, Text.isBlank c = true) →
        parseCreditScore (String.ofList (before ++ (Text.ofInt score.toInt ++ after))) =
          .ok score := by
  refine ⟨fun text n => exists_parseCreditScore_iff, ?_, ?_⟩
  · intro text hnone
    rcases parseCreditScore_cases text with ⟨score, hscore⟩ | herror
    · exact absurd (exists_parseCreditScore_iff.mp ⟨score, hscore, rfl⟩) (hnone score.toInt)
    · exact herror
  · intro score before after hbefore hafter
    have hstripped : Text.IsStripped (before ++ (Text.ofInt score.toInt ++ after))
        (Text.ofInt score.toInt) := {
      exists_around := ⟨before, after, rfl, hbefore, hafter⟩
      head := fun c hc => Text.isBlank_of_mem_ofInt (List.mem_of_head? hc)
      last := fun c hc => Text.isBlank_of_mem_ofInt (List.mem_of_getLast? hc) }
    rw [parseCreditScore_eq_ok_iff, String.toList_ofList, ← hstripped.eq_trim]
    exact Text.int32?_eq_some_iff.mpr (Text.spells_ofInt score.toInt)

/-- The least score with white space of two kinds around it; and a sign that does not stand right
before its digits. -/
theorem parseCreditScore_numerals_least :
    parseCreditScore "\t-2147483648\u3000" = .ok Int32.minValue ∧
      parseCreditScore " + 7" =
        .error (.invalidInput "credit score ' + 7' is not a number") := by
  constructor
  · have htext : "\t-2147483648\u3000" =
        String.ofList (['\t'] ++ (Text.ofInt Int32.minValue.toInt ++ ['\u3000'])) := by decide
    rw [htext]
    exact parseCreditScore_numerals.2.2 Int32.minValue ['\t'] ['\u3000']
      (List.forall_mem_singleton.mpr rfl) (List.forall_mem_singleton.mpr rfl)
  · have hnone : ∀ n, ¬ SpellsScore " + 7" n := by
      rintro n ⟨core, hstripped, hspells, -⟩
      have hcore : core = ['+', ' ', '7'] := hstripped.eq_trim
      have hread := Text.int?_eq_some_iff.mpr hspells
      rw [hcore] at hread
      injection hread
    exact parseCreditScore_numerals.2.1 " + 7" hnone

-- Zeros at the front do not count, whatever number of them there is.
example : parseCreditScore "-0000002147483648" = .ok Int32.minValue := by
  decide

end CommandLine

end LoanPricing
