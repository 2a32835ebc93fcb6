import LoanPricing.Proofs.Json.Grammar
import LoanPricing.Proofs.Json.LiteralValue

/-!
# Objects — what their members do to a draft

An object is written as members in some order, each with a key that is spelled in some way and the
text of any value. Reading it puts the members into a draft one by one: a member whose key is no
field's leaves the draft alone, and a member of a field has to be the first of its field and to have
a value of the field's kind.
-/

namespace LoanPricing.Json

open Text (isDigit)

/-! ## 1. Texts of typed values -/

/-- The text of a value of a kind, and the value: a string whose body spells it, a number literal
that stands for it or spells a whole number, the text of a flag. -/
def Denotes : (kind : Kind) → List Char → kind.Value → Prop
  | .text, text, s => ∃ body, text = '"' :: (body ++ ['"']) ∧ Spells body s.toList
  | .number, text, x => ∃ l : Literal, text = l.text ∧ l.StandsFor x
  | .int32, text, n => ∃ l : Literal, text = l.text ∧ l.IsWhole n.toInt
  | .flag, text, b => text = writeFlag b

/-- What a value is by its first character. -/
theorem IsValue.head_cases {c : Char} {tail : List Char} (h : IsValue (c :: tail)) :
    (c = '"' ∧ ∃ body, IsBody body ∧ tail = body ++ ['"']) ∨
      ((c = '-' ∨ isDigit c = true) ∧ ∃ l : Literal, c :: tail = l.text) ∨
      ((c = 't' ∨ c = 'f') ∧ ∃ b, c :: tail = writeFlag b) ∨ (c = 'n' ∨ c = '[' ∨ c = '{') := by
  generalize htext : c :: tail = text at h
  cases h with
  | string hbody =>
    obtain ⟨rfl, rfl⟩ := List.cons.inj htext
    exact .inl ⟨rfl, _, hbody, rfl⟩
  | number l =>
    obtain ⟨d, rest, hl, hd⟩ := l.exists_head
    obtain rfl := (List.cons.inj (htext.trans hl)).1
    exact .inr (.inl ⟨hd, l, rfl⟩)
  | flag b =>
    refine .inr (.inr (.inl ⟨?_, b, rfl⟩))
    cases b with
    | true => exact .inl (List.cons.inj htext).1
    | false => exact .inr (List.cons.inj htext).1
  | null => exact .inr (.inr (.inr (.inl (List.cons.inj htext).1)))
  | list => exact .inr (.inr (.inr (.inr (.inl (List.cons.inj htext).1))))
  | emptyList => exact .inr (.inr (.inr (.inr (.inl (List.cons.inj htext).1))))
  | object => exact .inr (.inr (.inr (.inr (.inr (List.cons.inj htext).1))))
  | emptyObject => exact .inr (.inr (.inr (.inr (.inr (List.cons.inj htext).1))))

theorem IsValue.exists_body {tail : List Char} (h : IsValue ('"' :: tail)) :
    ∃ body, IsBody body ∧ tail = body ++ ['"'] := by
  obtain ⟨-, hbody⟩ | ⟨hc, -⟩ | ⟨hc, -⟩ | hc := h.head_cases
  · exact hbody
  · exact absurd hc (by decide)
  · exact absurd hc (by decide)
  · exact absurd hc (by decide)

theorem IsValue.exists_literal {value rest : List Char} (h : IsValue value)
    (hstart : startsNumber (value ++ rest) = true) : ∃ l : Literal, value = l.text := by
  obtain ⟨c, tail, rfl, -⟩ := h.exists_head
  rw [List.cons_append, startsNumber, Bool.or_eq_true, beq_iff_eq] at hstart
  obtain ⟨rfl, -⟩ | ⟨-, hl⟩ | ⟨rfl | rfl, -⟩ | rfl | rfl | rfl := h.head_cases
  case inr.inl => exact hl
  all_goals exact absurd hstart (by decide)

theorem IsValue.exists_flag {c : Char} {tail : List Char} (h : IsValue (c :: tail))
    (hc : c = 't' ∨ c = 'f') : ∃ b, c :: tail = writeFlag b := by
  obtain ⟨rfl, -⟩ | ⟨hnumber, -⟩ | ⟨-, hb⟩ | hother := h.head_cases
  · exact absurd hc (by decide)
  · rcases hc with rfl | rfl <;> exact absurd hnumber (by decide)
  · exact hb
  · rcases hc with rfl | rfl <;> exact absurd hother (by decide)

theorem readNumber_eq_ok_iff {l : Literal} {rest after : List Char} {n : Number}
    (hrest : Stops rest) :
    readNumber (l.text ++ rest) = .ok (n, after) ↔ l.number? = some n ∧ after = rest := by
  have hread := readNumber_literal l hrest
  cases hcase : readNumber (l.text ++ rest) with
  | error f =>
    rw [hcase] at hread
    cases hn : l.number? with
    | none => simp
    | some n =>
      rw [hn] at hread
      injection hread
  | ok p =>
    rw [hcase] at hread
    cases hn : l.number? with
    | none =>
      rw [hn] at hread
      injection hread
    | some n' =>
      rw [hn] at hread
      obtain rfl : p = (n', rest) := Option.some.inj hread
      simp only [Except.ok.injEq, Prod.mk.injEq, Option.some.injEq]
      exact and_congr_right fun _ => eq_comm

-- A text that is not of the kind does not begin like one of the kind.
theorem readText_eq_ok_iff {value rest after : List Char} {s : String} (hvalue : IsValue value) :
    readText (value ++ rest) = .ok (s, after) ↔ Denotes .text value s ∧ after = rest := by
  obtain ⟨c, tail, rfl, -⟩ := hvalue.exists_head
  by_cases hquote : c = '"'
  · subst hquote
    obtain ⟨body, hbody, rfl⟩ := hvalue.exists_body
    rw [List.cons_append, List.append_assoc, List.singleton_append, readText]
    constructor
    · intro h
      obtain ⟨text, htext, rfl⟩ := length_of_map_ok h
      obtain ⟨hspells, rfl⟩ := (readStringTail_body hbody).mp htext
      exact ⟨⟨body, rfl, by rwa [String.toList_ofList]⟩, rfl⟩
    · rintro ⟨⟨body', hbody', hspells⟩, rfl⟩
      obtain rfl := List.append_cancel_right (List.cons.inj hbody').2
      rw [readStringTail_append hspells]
      simp only [Except.map, String.ofList_toList]
  · have herror : readText (c :: tail ++ rest) =
        .error (wrongValue Kind.text.wanted (c :: tail ++ rest)) := by
      rw [readText]
      rintro cs heq
      exact hquote (List.cons.inj heq).1
    rw [herror]
    constructor
    · intro h
      injection h
    · rintro ⟨⟨body, hbody, -⟩, -⟩
      exact absurd (List.cons.inj hbody).1 hquote

theorem startsNumber_literal (l : Literal) (rest : List Char) :
    startsNumber (l.text ++ rest) = true := by
  obtain ⟨c, tail, htext, hc⟩ := l.exists_head
  rw [htext, List.cons_append, startsNumber, Bool.or_eq_true, beq_iff_eq]
  exact hc

theorem Literal.text_ne_of_not_startsNumber {value rest : List Char}
    (h : ¬ startsNumber (value ++ rest) = true) (l : Literal) : value ≠ l.text := by
  rintro rfl
  exact h (startsNumber_literal l rest)

theorem readFloat_eq_ok_iff {value rest after : List Char} {x : Float} (hvalue : IsValue value)
    (hrest : Stops rest) :
    readFloat (value ++ rest) = .ok (x, after) ↔ Denotes .number value x ∧ after = rest := by
  by_cases hstart : startsNumber (value ++ rest) = true
  · obtain ⟨l, rfl⟩ := hvalue.exists_literal hstart
    rw [readFloat, if_pos hstart]
    constructor
    · intro h
      obtain ⟨n, hn, rfl⟩ := length_of_map_ok h
      obtain ⟨hnumber, rfl⟩ := (readNumber_eq_ok_iff hrest).mp hn
      exact ⟨⟨l, rfl, Literal.standsFor_iff.mpr ⟨n, hnumber, rfl⟩⟩, rfl⟩
    · rintro ⟨⟨l', hl', hx⟩, rfl⟩
      obtain ⟨n, hnumber, rfl⟩ := Literal.standsFor_iff.mp hx
      rw [hl', (readNumber_eq_ok_iff hrest).mpr ⟨hnumber, rfl⟩]
      rfl
  · rw [readFloat, if_neg hstart]
    constructor
    · intro h
      injection h
    · rintro ⟨⟨l, hl, -⟩, -⟩
      exact absurd hl (l.text_ne_of_not_startsNumber hstart)

theorem int32_ofInt_eq_iff {m : Int} {n : Int32}
    (hm : Int32.minValue.toInt ≤ m ∧ m ≤ Int32.maxValue.toInt) :
    Int32.ofInt m = n ↔ m = n.toInt := by
  constructor
  · rintro rfl
    exact (Int32.toInt_ofInt_of_le hm.1 (Int.lt_of_le_of_lt hm.2 (by decide))).symm
  · rintro rfl
    exact Int32.ofInt_toInt n

theorem Literal.number?_eq_int32_iff {l : Literal} {n : Int32} :
    l.number? = some (.whole n.toInt) ↔ l.IsWhole n.toInt := by
  have hlow : Int32.minValue.toInt ≤ n.toInt := n.minValue_le_toInt
  have hmin : Int32.minValue.toInt = -0x80000000 := by decide
  exact number?_eq_whole_iff (by omega)

theorem readInt32_eq_ok_iff {value rest after : List Char} {n : Int32} (hvalue : IsValue value)
    (hrest : Stops rest) :
    readInt32 (value ++ rest) = .ok (n, after) ↔ Denotes .int32 value n ∧ after = rest := by
  by_cases hstart : startsNumber (value ++ rest) = true
  · obtain ⟨l, rfl⟩ := hvalue.exists_literal hstart
    constructor
    · intro h
      rw [readInt32, if_pos hstart] at h
      split at h
      · injection h
      · rename_i m left hnumber
        obtain ⟨hwhole, rfl⟩ := (readNumber_eq_ok_iff hrest).mp hnumber
        split at h
        · rename_i hrange
          rw [Except.ok.injEq, Prod.mk.injEq] at h
          obtain ⟨hn, rfl⟩ := h
          obtain rfl := (int32_ofInt_eq_iff hrange).mp hn
          exact ⟨⟨l, rfl, Literal.number?_eq_int32_iff.mp hwhole⟩, rfl⟩
        · injection h
      · injection h
    · rintro ⟨⟨l', hl', hwhole⟩, rfl⟩
      have hnumber := Literal.number?_eq_int32_iff.mpr hwhole
      have hread := (readNumber_eq_ok_iff hrest).mpr ⟨hnumber, rfl⟩
      rw [hl', readInt32_of_whole (startsNumber_literal l' _) hread
        ⟨n.minValue_le_toInt, n.toInt_le⟩, Int32.ofInt_toInt]
  · rw [readInt32, if_neg hstart]
    constructor
    · intro h
      injection h
    · rintro ⟨⟨l, hl, -⟩, -⟩
      exact absurd hl (l.text_ne_of_not_startsNumber hstart)

theorem readFlag_writeFlag (b : Bool) (rest : List Char) :
    readFlag (writeFlag b ++ rest) = .ok (b, rest) := by
  cases b <;> rfl

theorem readFlag_eq_ok_iff {value rest after : List Char} {b : Bool} (hvalue : IsValue value) :
    readFlag (value ++ rest) = .ok (b, after) ↔ Denotes .flag value b ∧ after = rest := by
  obtain ⟨c, tail, rfl, -⟩ := hvalue.exists_head
  by_cases hletter : c = 't' ∨ c = 'f'
  · obtain ⟨b', hb'⟩ := hvalue.exists_flag hletter
    rw [hb', readFlag_writeFlag, Except.ok.injEq, Prod.mk.injEq]
    constructor
    · rintro ⟨rfl, rfl⟩
      exact ⟨rfl, rfl⟩
    · rintro ⟨hb, rfl⟩
      have hinj : ∀ x y : Bool, writeFlag x = writeFlag y → x = y := by decide
      exact ⟨hinj b' b hb, rfl⟩
  · have herror : readFlag (c :: tail ++ rest) =
        .error (wrongValue Kind.flag.wanted (c :: tail ++ rest)) := by
      rw [readFlag]
      · rintro cs heq
        exact hletter (.inl (List.cons.inj heq).1)
      · rintro cs heq
        exact hletter (.inr (List.cons.inj heq).1)
    rw [herror]
    constructor
    · intro h
      injection h
    · rintro ⟨hb, -⟩
      cases b with
      | true => exact absurd (.inl (List.cons.inj hb).1) hletter
      | false => exact absurd (.inr (List.cons.inj hb).1) hletter

/-- A value of a kind is read from the text of a value if and only if that is what the text
denotes, and it is read to its end. -/
theorem readValue_eq_ok_iff {kind : Kind} {before value rest after : List Char} {x : kind.Value}
    (hbefore : IsBlanks before) (hvalue : IsValue value) (hrest : Stops rest) :
    readValue kind (before ++ (value ++ rest)) = .ok (x, after) ↔
      Denotes kind value x ∧ after = rest := by
  have hblanks : skipBlanks (before ++ (value ++ rest)) = value ++ rest := by
    rw [skipBlanks_append hbefore, hvalue.skipBlanks_eq]
  cases kind with
  | text => rw [readValue, hblanks, readText_eq_ok_iff hvalue]
  | number => rw [readValue, hblanks, readFloat_eq_ok_iff hvalue hrest]
  | int32 => rw [readValue, hblanks, readInt32_eq_ok_iff hvalue hrest]
  | flag => rw [readValue, hblanks, readFlag_eq_ok_iff hvalue]

theorem Denotes.isValue {kind : Kind} {text : List Char} {x : kind.Value}
    (h : Denotes kind text x) : IsValue text := by
  cases kind with
  | text =>
    obtain ⟨body, rfl, hbody⟩ := h
    exact .string hbody.isBody
  | number =>
    obtain ⟨l, rfl, -⟩ := h
    exact .number l
  | int32 =>
    obtain ⟨l, rfl, -⟩ := h
    exact .number l
  | flag =>
    obtain rfl : text = writeFlag x := h
    exact .flag x

/-- What a text denotes is read from it. -/
theorem Denotes.readWhole_eq {kind : Kind} {text : List Char} {x : kind.Value}
    (h : Denotes kind text x) : readWhole (readValue kind) text = .ok x := by
  have hread : readValue kind ([] ++ (text ++ [])) = .ok (x, []) :=
    (readValue_eq_ok_iff (by decide) h.isValue stops_nil).mpr
      ⟨h, rfl⟩
  rw [List.nil_append, List.append_nil] at hread
  exact readWhole_eq_ok_iff.mpr ⟨[], hread, by decide⟩

theorem Denotes.unique {kind : Kind} {text : List Char} {x y : kind.Value}
    (hx : Denotes kind text x) (hy : Denotes kind text y) : x = y := by
  have h := hx.readWhole_eq
  rw [hy.readWhole_eq] at h
  exact (Except.ok.inj h).symm

/-! ## 2. The text of an object -/

/-- A member of an object: its key, and the text of its value. -/
structure Member where
  key : String
  value : List Char
  deriving DecidableEq, Repr

/-- The text of a member. The key may be spelled in any way, and the value may be any. -/
inductive IsMember (m : Member) : List Char → Prop
  | intro {before body between front back : List Char} (hbefore : IsBlanks before)
      (hkey : Spells body m.key.toList) (hbetween : IsBlanks between) (hfront : IsBlanks front)
      (hvalue : IsValue m.value) (hback : IsBlanks back) :
      IsMember m
        (before ++ '"' :: (body ++ '"' :: (between ++ ':' :: (front ++ (m.value ++ back)))))

/-- The text of members, at least one, with commas between them. -/
inductive AreMembers : List Member → List Char → Prop
  | last {m : Member} {text : List Char} (h : IsMember m text) : AreMembers [m] text
  | more {m : Member} {ms : List Member} {text texts : List Char} (h : IsMember m text)
      (hs : AreMembers ms texts) : AreMembers (m :: ms) (text ++ ',' :: texts)

/-- The text of an object, by its members. -/
def IsObjectOf (members : List Member) (text : List Char) : Prop :=
  ∃ before inner after, IsBlanks before ∧ IsBlanks after ∧
    text = before ++ '{' :: (inner ++ '}' :: after) ∧
      (members = [] ∧ IsBlanks inner ∨ AreMembers members inner)

/-! ## 3. What members do -/

section

variable {δ α : Type}

/-- What a member does to a draft: nothing if its key is no field's; otherwise the field has not
been set before and is set to what the text of the value denotes. -/
def Member.Puts (fields : List (Field δ)) (m : Member) (draft next : δ) : Prop :=
  match fields.find? fun field => field.name == m.key with
  | none => next = draft
  | some field =>
    field.isSet draft = false ∧ ∃ x, Denotes field.kind m.value x ∧ next = field.set x draft

/-- What members do to a draft, one after the other. -/
def PutsAll (fields : List (Field δ)) : List Member → δ → δ → Prop
  | [], draft, result => result = draft
  | m :: ms, draft, result => ∃ next, m.Puts fields draft next ∧ PutsAll fields ms next result

-- Where the first member of a text stands: at the front, or behind a comma.
def Leads (first : Bool) (cs text : List Char) : Prop :=
  first = true ∧ skipBlanks cs = skipBlanks text ∨
    first = false ∧ ∃ after, skipBlanks cs = ',' :: after ∧ skipBlanks after = skipBlanks text

theorem readMembers_field_eq_ok {fields : List (Field δ)} {first : Bool} {draft result : δ}
    {cs afterKey afterColon rest : List Char} {key : String} {field : Field δ}
    (hkey : nextKey first cs = .ok (some key, afterKey))
    (hfind : (fields.find? fun field => field.name == key) = some field)
    (hcolon : readColon afterKey = .ok afterColon)
    (h : readMembers fields first draft cs = .ok (result, rest)) :
    field.isSet draft = false ∧
      ∃ x mid, readValue field.kind afterColon = .ok (x, mid) := by
  rw [readMembers] at h
  split at h
  · injection h
  · rename_i heq
    rw [hkey] at heq
    injection heq with heq
    injection heq with heq
    injection heq
  · rename_i heq
    rw [hkey, Except.ok.injEq, Prod.mk.injEq, Option.some.injEq] at heq
    obtain ⟨rfl, rfl⟩ := heq
    rw [hfind] at h
    simp only at h
    split at h
    · injection h
    · rename_i hset
      refine ⟨Bool.eq_false_iff.mpr hset, ?_⟩
      split at h
      · injection h
      · rename_i heq
        rw [hcolon] at heq
        obtain rfl := Except.ok.inj heq
        split at h
        · injection h
        · rename_i hvalue
          exact ⟨_, _, hvalue⟩

/-- A member is read by what it does to the draft, and then the members behind it. -/
theorem readMembers_member_iff {fields : List (Field δ)} {first : Bool} {draft result : δ}
    {cs afterKey front tail rest : List Char} {m : Member}
    (hkey : nextKey first cs = .ok (some m.key, afterKey))
    (hcolon : readColon afterKey = .ok (front ++ (m.value ++ tail))) (hfront : IsBlanks front)
    (hvalue : IsValue m.value) (htail : Stops tail) :
    readMembers fields first draft cs = .ok (result, rest) ↔
      ∃ next, m.Puts fields draft next ∧
        readMembers fields false next tail = .ok (result, rest) := by
  unfold Member.Puts
  cases hfind : fields.find? fun field => field.name == m.key with
  | none =>
    rw [readMembers_of_unknown hkey hfind hcolon (skipValue_append hfront hvalue htail)]
    constructor
    · exact fun h => ⟨draft, rfl, h⟩
    · rintro ⟨_, rfl, h⟩
      exact h
  | some field =>
    constructor
    · intro h
      obtain ⟨hset, x, mid, hread⟩ := readMembers_field_eq_ok hkey hfind hcolon h
      rw [readMembers_of_field hkey hfind hset hcolon hread] at h
      obtain ⟨hx, rfl⟩ := (readValue_eq_ok_iff hfront hvalue htail).mp hread
      exact ⟨_, ⟨hset, x, hx, rfl⟩, h⟩
    · rintro ⟨_, ⟨hset, x, hx, rfl⟩, h⟩
      have hread := (readValue_eq_ok_iff hfront hvalue htail).mpr ⟨hx, rfl⟩
      rw [readMembers_of_field hkey hfind hset hcolon hread]
      exact h

-- A member that leads a text is found there, with its value behind the colon.
theorem IsMember.exists_value {m : Member} {text : List Char} (h : IsMember m text)
    {first : Bool} {cs tail : List Char} (hlead : Leads first cs (text ++ tail)) :
    IsValue m.value ∧ ∃ afterKey front back, IsBlanks front ∧ IsBlanks back ∧
      nextKey first cs = .ok (some m.key, afterKey) ∧
        readColon afterKey = .ok (front ++ (m.value ++ (back ++ tail))) := by
  obtain ⟨hbefore, hkey, hbetween, hfront, hvalue, hback⟩ := h
  rename_i before body between front back
  let afterColon := front ++ (m.value ++ (back ++ tail))
  let afterKey := between ++ ':' :: afterColon
  have htext : skipBlanks (before ++ '"' :: (body ++ '"' :: (between ++ ':' ::
      (front ++ (m.value ++ back)))) ++ tail) = '"' :: (body ++ '"' :: afterKey) := by
    simp only [List.append_assoc, List.cons_append]
    exact skipBlanks_close hbefore (by decide) _
  have hquoted : nextKey.key ('"' :: (body ++ '"' :: afterKey)) = .ok (some m.key, afterKey) :=
    nextKeyKey_eq_ok_iff.mpr ⟨_, _, rfl, readStringTail_append hkey _,
      by rw [String.ofList_toList]⟩
  refine ⟨hvalue, afterKey, front, back, hfront, hback, nextKey_eq_ok_iff.mpr ?_,
    readColon_eq_ok_iff.mpr (skipBlanks_close hbetween (by decide) _)⟩
  rcases hlead with ⟨hfirst, hcs⟩ | ⟨hfirst, after, hcomma, hafter⟩
  · rw [htext] at hcs
    exact .inr (.inl ⟨hfirst, by rw [hcs]; exact hquoted⟩)
  · rw [htext] at hafter
    exact .inr (.inr ⟨hfirst, after, hcomma, by rw [hafter]; exact hquoted⟩)

/-- Members are read up to their brace by what they do to the draft in turn. -/
theorem readMembers_members_iff {fields : List (Field δ)} {ms : List Member} {text : List Char}
    (h : AreMembers ms text) {first : Bool} {draft result : δ} {cs rest after : List Char}
    (hlead : Leads first cs (text ++ '}' :: rest)) :
    readMembers fields first draft cs = .ok (result, after) ↔
      PutsAll fields ms draft result ∧ after = rest := by
  induction h generalizing first draft cs with
  | @last m text h =>
    obtain ⟨hvalue, afterKey, front, back, hfront, hback, hkey, hcolon⟩ := h.exists_value hlead
    have hstops : Stops (back ++ '}' :: rest) := Stops.blanks hback (stops_cons (by decide) rest)
    have hend : ∀ next : δ,
        readMembers fields false next (back ++ '}' :: rest) = .ok (next, rest) := fun next =>
      readMembers_of_end (nextKey_eq_ok_iff.mpr
        (.inl ⟨rfl, skipBlanks_close hback (by decide) rest⟩))
    rw [readMembers_member_iff hkey hcolon hfront hvalue hstops]
    constructor
    · rintro ⟨next, hputs, hread⟩
      rw [hend, Except.ok.injEq, Prod.mk.injEq] at hread
      obtain ⟨rfl, rfl⟩ := hread
      exact ⟨⟨_, hputs, rfl⟩, rfl⟩
    · rintro ⟨⟨next, hputs, rfl⟩, rfl⟩
      exact ⟨_, hputs, hend _⟩
  | @more m ms text texts h hs ih =>
    rw [List.append_assoc, List.cons_append] at hlead
    obtain ⟨hvalue, afterKey, front, back, hfront, hback, hkey, hcolon⟩ := h.exists_value hlead
    have hstops : Stops (back ++ ',' :: (texts ++ '}' :: rest)) :=
      Stops.blanks hback (stops_cons (by decide) _)
    have hnext : Leads false (back ++ ',' :: (texts ++ '}' :: rest)) (texts ++ '}' :: rest) :=
      .inr ⟨rfl, _, skipBlanks_close hback (by decide) _, rfl⟩
    rw [readMembers_member_iff hkey hcolon hfront hvalue hstops]
    constructor
    · rintro ⟨next, hputs, hread⟩
      obtain ⟨hall, hafter⟩ := (ih hnext).mp hread
      exact ⟨⟨next, hputs, hall⟩, hafter⟩
    · rintro ⟨⟨next, hputs, hall⟩, hafter⟩
      exact ⟨next, hputs, (ih hnext).mpr ⟨hall, hafter⟩⟩

/-- **An object is read by what its members do.** A record comes of the text of an object if and
only if its members, one after the other, can be put into the draft, and the draft makes that
record. -/
theorem Shape.readWhole_object_iff {shape : Shape δ α} {members : List Member} {text : List Char}
    {record : α} (h : IsObjectOf members text) :
    readWhole shape.read text = .ok record ↔
      ∃ draft, PutsAll shape.fields members shape.start draft ∧
        shape.finish draft = .ok record := by
  obtain ⟨before, inner, after, hbefore, hafter, rfl, hinner⟩ := h
  have hmembers : ∀ draft rest,
      readMembers shape.fields true shape.start (inner ++ '}' :: after) = .ok (draft, rest) ↔
        PutsAll shape.fields members shape.start draft ∧ rest = after := by
    intro draft rest
    rcases hinner with ⟨rfl, hblank⟩ | hmembers
    · rw [readMembers_of_end (nextKey_eq_ok_iff.mpr
        (.inl ⟨rfl, skipBlanks_close hblank (by decide) after⟩)), Except.ok.injEq, Prod.mk.injEq]
      exact and_congr eq_comm eq_comm
    · exact readMembers_members_iff hmembers (.inl ⟨rfl, rfl⟩)
  have hopen : skipBlanks (before ++ '{' :: (inner ++ '}' :: after)) =
      '{' :: (inner ++ '}' :: after) := skipBlanks_close hbefore (by decide) _
  rw [readWhole_eq_ok_iff]
  constructor
  · rintro ⟨rest, hread, -⟩
    obtain ⟨draft, hfinish, ⟨tail, hbrace, hread⟩ | ⟨tail, hbracket, -⟩⟩ :=
      Shape.read_eq_ok_iff.mp hread
    · rw [hopen] at hbrace
      obtain rfl := (List.cons.inj hbrace).2
      exact ⟨draft, ((hmembers draft rest).mp hread).1, hfinish⟩
    · rw [hopen] at hbracket
      exact absurd (List.cons.inj hbracket).1 (by decide)
  · rintro ⟨draft, hputs, hfinish⟩
    exact ⟨after, Shape.read_eq_ok_iff.mpr ⟨draft, hfinish,
      .inl ⟨_, hopen, (hmembers draft after).mpr ⟨hputs, rfl⟩⟩⟩, hafter⟩

end

end LoanPricing.Json
