import LoanPricing.Json.Record
import LoanPricing.Proofs.Json.NumberExtent

/-!
# Extents of records — up to the closing bracket

Values without brackets end ahead, as some of them are numbers. A record begins and ends with a
bracket, so that it is read in the same way whatever follows it.
-/

namespace LoanPricing.Json

open Text (isDigit)

/-! ## 1. Skipped values -/

theorem skipScalar_endsAhead {cs rest : List Char} (h : skipScalar cs = .ok rest) :
    EndsAhead (fun xs ys => skipScalar xs = .ok ys) cs rest := by
  unfold skipScalar at h
  split at h
  · exact (readWord_ends h).ahead.cons fun hL => hL
  · exact (readWord_ends h).ahead.cons fun hL => hL
  · exact (readWord_ends h).ahead.cons fun hL => hL
  · exact (skipStringTail_ends h).ahead.cons fun hL => hL
  · simp at h
  · rename_i c cs hn ht hf hquote
    by_cases hstart : c = '-' ∨ isDigit c = true
    · rw [if_pos hstart] at h
      refine (skipNumber_endsAhead h).imp_head fun hhead hL => ?_
      obtain ⟨tail, rfl⟩ := List.head?_eq_some_iff.mp hhead
      rw [skipScalar, if_pos hstart, hL]
      all_goals assumption
    · simp [hstart] at h

theorem skipKey_of_colon {cs rest tail : List Char} (hkey : skipStringTail cs = .ok rest)
    (hcolon : skipBlanks rest = ':' :: tail) : skipKey ('"' :: cs) = .ok tail := by
  simp only [skipKey, hkey, hcolon]

theorem skipKey_ends {cs rest : List Char} (h : skipKey cs = .ok rest) :
    Ends (fun xs ys => skipKey xs = .ok ys) cs rest := by
  unfold skipKey at h
  split at h
  · simp at h
  · rename_i tail
    cases hkey : skipStringTail tail with
    | error f => simp [hkey] at h
    | ok after =>
      simp only [hkey] at h
      split at h
      · simp at h
      · rename_i hcolon
        obtain rfl := Except.ok.inj h
        have hpiece : Ends (fun xs ys => skipKey ('"' :: xs) = .ok ys) tail _ :=
          (skipStringTail_ends hkey).comp (skipBlanks_ends hcolon) skipKey_of_colon
        exact hpiece.cons fun hL => hL
      · simp at h
  · simp at h

section

variable {stack outer : List Bracket} {cs after mid rest : List Char}

theorem skipFrom_emptyList (hopen : skipBlanks cs = '[' :: after)
    (hclose : skipBlanks after = ']' :: rest) :
    skipFrom .value stack cs = skipFrom .next stack rest := by
  rw [skipFrom]
  split
  · split <;> simp_all
  all_goals simp_all

theorem skipFrom_list (hopen : skipBlanks cs = '[' :: after) (hmid : skipBlanks after = mid)
    (hclose : mid.head? ≠ some ']') (hend : mid.head? ≠ none) :
    skipFrom .value stack cs = skipFrom .value (.list :: stack) mid := by
  rw [skipFrom]
  split
  · split <;> simp_all
  all_goals simp_all

theorem skipFrom_emptyObject (hopen : skipBlanks cs = '{' :: after)
    (hclose : skipBlanks after = '}' :: rest) :
    skipFrom .value stack cs = skipFrom .next stack rest := by
  rw [skipFrom]
  split
  · simp_all
  · split <;> simp_all
  · simp_all

theorem skipFrom_object (hopen : skipBlanks cs = '{' :: after) (hmid : skipBlanks after = mid)
    (hclose : mid.head? ≠ some '}') (hend : mid.head? ≠ none) :
    skipFrom .value stack cs = skipFrom .member (.object :: stack) mid := by
  rw [skipFrom]
  split
  · simp_all
  · split <;> simp_all
  · simp_all

theorem skipFrom_scalar (hmid : skipBlanks cs = mid) (hlist : mid.head? ≠ some '[')
    (hobject : mid.head? ≠ some '{') (hscalar : skipScalar mid = .ok rest) :
    skipFrom .value stack cs = skipFrom .next stack rest := by
  subst hmid
  rw [skipFrom]
  split
  · simp_all
  · simp_all
  · split <;> simp_all

theorem skipFrom_member (hkey : skipKey (skipBlanks cs) = .ok rest) :
    skipFrom .member stack cs = skipFrom .value stack rest := by
  conv => lhs; rw [skipFrom]
  split <;> simp_all

theorem skipFrom_end : skipFrom .next [] cs = .ok cs := by
  rw [skipFrom]

theorem skipFrom_listComma (hcomma : skipBlanks cs = ',' :: rest) :
    skipFrom .next (.list :: outer) cs = skipFrom .value (.list :: outer) rest := by
  conv => lhs; rw [skipFrom]
  split <;> simp_all

theorem skipFrom_listEnd (hclose : skipBlanks cs = ']' :: rest) :
    skipFrom .next (.list :: outer) cs = skipFrom .next outer rest := by
  conv => lhs; rw [skipFrom]
  split <;> simp_all

theorem skipFrom_objectComma (hcomma : skipBlanks cs = ',' :: rest) :
    skipFrom .next (.object :: outer) cs = skipFrom .member (.object :: outer) rest := by
  conv => lhs; rw [skipFrom]
  split <;> simp_all

theorem skipFrom_objectEnd (hclose : skipBlanks cs = '}' :: rest) :
    skipFrom .next (.object :: outer) cs = skipFrom .next outer rest := by
  conv => lhs; rw [skipFrom]
  split <;> simp_all

end

theorem ne_of_head?_eq {c : Char} {xs cs : List Char} (hhead : xs.head? = cs.head?)
    (h : ∀ tail, cs = c :: tail → False) : xs.head? ≠ some c := by
  intro hc
  obtain ⟨tail, htail⟩ := List.head?_eq_some_iff.mp (hhead.symm.trans hc)
  exact h tail htail

theorem ne_none_of_head?_eq {xs cs : List Char} (hhead : xs.head? = cs.head?)
    (h : cs = [] → False) : xs.head? ≠ none := by
  intro hnone
  exact h (List.head?_eq_none_iff.mp (hhead.symm.trans hnone))

theorem skipFrom_endsAhead {expect : Expect} {stack : List Bracket} {cs rest : List Char}
    (h : skipFrom expect stack cs = .ok rest) :
    EndsAhead (fun xs ys => skipFrom expect stack xs = .ok ys) cs rest := by
  fun_induction skipFrom expect stack cs with
  -- a value: a list or an object, empty or not, or a scalar
  | case1 stack cs after hopen tail hclose ih =>
    refine (skipBlanks_ends_pair hopen hclose).ahead.comp (ih h) fun hL hM => ?_
    obtain ⟨mid, hL, hL'⟩ := hL
    rw [skipFrom_emptyList hL hL', hM]
  | case2 => simp at h
  | case3 stack cs after hopen hclose hend ih =>
    refine (skipBlanks_ends hopen).ahead.comp (ih h).afterBlanks fun hL hM => ?_
    obtain ⟨hhead, hM⟩ := hM
    rw [skipFrom_list hL rfl (ne_of_head?_eq hhead hclose) (ne_none_of_head?_eq hhead hend), hM]
  | case4 stack cs after hopen tail hclose ih =>
    refine (skipBlanks_ends_pair hopen hclose).ahead.comp (ih h) fun hL hM => ?_
    obtain ⟨mid, hL, hL'⟩ := hL
    rw [skipFrom_emptyObject hL hL', hM]
  | case5 => simp at h
  | case6 stack cs after hopen hclose hend ih =>
    refine (skipBlanks_ends hopen).ahead.comp (ih h).afterBlanks fun hL hM => ?_
    obtain ⟨hhead, hM⟩ := hM
    rw [skipFrom_object hL rfl (ne_of_head?_eq hhead hclose) (ne_none_of_head?_eq hhead hend), hM]
  | case7 stack cs after hlist hobject hscalar ih =>
    refine (skipScalar_endsAhead hscalar).afterBlanks.comp (ih h) fun hL hM => ?_
    obtain ⟨hhead, hL⟩ := hL
    rw [skipFrom_scalar rfl (ne_of_head?_eq hhead hlist) (ne_of_head?_eq hhead hobject) hL, hM]
  | case8 => simp at h
  -- a member
  | case9 stack cs after hkey ih =>
    refine (skipKey_ends hkey).ahead.afterBlanks.comp (ih h) fun hL hM => ?_
    rw [skipFrom_member hL.2, hM]
  | case10 => simp at h
  -- what follows a value: the end, or in a list or an object a comma or the closing bracket
  | case11 cs =>
    obtain rfl := Except.ok.inj h
    exact Ends.ahead (.refl fun ys => skipFrom_end)
  | case12 outer cs tail hcomma ih =>
    refine (skipBlanks_ends hcomma).ahead.comp (ih h) fun hL hM => ?_
    rw [skipFrom_listComma hL, hM]
  | case13 outer cs tail hclose ih =>
    refine (skipBlanks_ends hclose).ahead.comp (ih h) fun hL hM => ?_
    rw [skipFrom_listEnd hL, hM]
  | case14 => simp at h
  | case15 => simp at h
  | case16 outer cs tail hcomma ih =>
    refine (skipBlanks_ends hcomma).ahead.comp (ih h) fun hL hM => ?_
    rw [skipFrom_objectComma hL, hM]
  | case17 outer cs tail hclose ih =>
    refine (skipBlanks_ends hclose).ahead.comp (ih h) fun hL hM => ?_
    rw [skipFrom_objectEnd hL, hM]
  | case18 => simp at h
  | case19 => simp at h

theorem skipValue_endsAhead {cs rest : List Char} (h : skipValue cs = .ok rest) :
    EndsAhead (fun xs ys => skipValue xs = .ok ys) cs rest :=
  skipFrom_endsAhead h

/-! ## 2. Values of fields -/

theorem readText_ends {cs rest : List Char} {s : String} (h : readText cs = .ok (s, rest)) :
    Ends (fun xs ys => readText xs = .ok (s, ys)) cs rest := by
  unfold readText at h
  split at h
  · obtain ⟨text, htext, rfl⟩ := length_of_map_ok h
    refine (readStringTail_ends htext).cons fun hL => ?_
    rw [readText, hL]
    rfl
  · simp at h

theorem readFlag_ends {cs rest : List Char} {b : Bool} (h : readFlag cs = .ok (b, rest)) :
    Ends (fun xs ys => readFlag xs = .ok (b, ys)) cs rest := by
  have hword : ∀ {word tail : List Char} {flag : Bool},
      (readWord word tail).map (fun rest => (flag, rest)) = .ok (b, rest) →
        flag = b ∧ readWord word tail = .ok rest := by
    intro word tail flag hmap
    cases hread : readWord word tail with
    | error f => simp [hread, Except.map] at hmap
    | ok after =>
      simp only [hread, Except.map, Except.ok.injEq, Prod.mk.injEq] at hmap
      exact ⟨hmap.1, by rw [hmap.2]⟩
  unfold readFlag at h
  split at h
  · obtain ⟨rfl, hread⟩ := hword h
    refine (readWord_ends hread).cons fun hL => ?_
    rw [readFlag, hL]
    rfl
  · obtain ⟨rfl, hread⟩ := hword h
    refine (readWord_ends hread).cons fun hL => ?_
    rw [readFlag, hL]
    rfl
  · simp at h

theorem startsNumber_congr {xs ys : List Char} (h : xs.head? = ys.head?) :
    startsNumber xs = startsNumber ys := by
  rcases xs with _ | ⟨x, xs⟩
  · rw [List.head?_eq_none_iff.mp h.symm]
  · obtain ⟨tail, rfl⟩ := List.head?_eq_some_iff.mp h.symm
    rfl

theorem readFloat_endsAhead {cs rest : List Char} {x : Float} (h : readFloat cs = .ok (x, rest)) :
    EndsAhead (fun xs ys => readFloat xs = .ok (x, ys)) cs rest := by
  unfold readFloat at h
  by_cases hstart : startsNumber cs = true
  · rw [if_pos hstart] at h
    obtain ⟨n, hn, rfl⟩ := length_of_map_ok h
    refine (readNumber_endsAhead hn).imp_head fun hhead hL => ?_
    rw [readFloat, if_pos (by rw [startsNumber_congr hhead, hstart]), hL]
    rfl
  · simp [hstart] at h

theorem readInt32_of_whole {cs rest : List Char} {n : Int} (hstart : startsNumber cs = true)
    (hnumber : readNumber cs = .ok (.whole n, rest))
    (hrange : Int32.minValue.toInt ≤ n ∧ n ≤ Int32.maxValue.toInt) :
    readInt32 cs = .ok (Int32.ofInt n, rest) := by
  rw [readInt32, if_pos hstart, hnumber]
  simp only
  rw [if_pos hrange]

theorem readInt32_endsAhead {cs rest : List Char} {n : Int32} (h : readInt32 cs = .ok (n, rest)) :
    EndsAhead (fun xs ys => readInt32 xs = .ok (n, ys)) cs rest := by
  unfold readInt32 at h
  by_cases hstart : startsNumber cs = true
  · rw [if_pos hstart] at h
    split at h
    · simp at h
    · rename_i m after hnumber
      by_cases hrange : Int32.minValue.toInt ≤ m ∧ m ≤ Int32.maxValue.toInt
      · rw [if_pos hrange, Except.ok.injEq, Prod.mk.injEq] at h
        obtain ⟨rfl, rfl⟩ := h
        refine (readNumber_endsAhead hnumber).imp_head fun hhead hL => ?_
        exact readInt32_of_whole (by rw [startsNumber_congr hhead, hstart]) hL hrange
      · rw [if_neg hrange] at h
        injection h
    · simp at h
  · simp [hstart] at h

theorem readValue_endsAhead {kind : Kind} {cs rest : List Char} {v : kind.Value}
    (h : readValue kind cs = .ok (v, rest)) :
    EndsAhead (fun xs ys => readValue kind xs = .ok (v, ys)) cs rest := by
  cases kind with
  | text => exact (readText_ends h).ahead.afterBlanks.imp fun hL => hL.2
  | number => exact (readFloat_endsAhead h).afterBlanks.imp fun hL => hL.2
  | int32 => exact (readInt32_endsAhead h).afterBlanks.imp fun hL => hL.2
  | flag => exact (readFlag_ends h).ahead.afterBlanks.imp fun hL => hL.2

/-! ## 3. Members and elements -/

theorem nextKeyKey_eq_ok_iff {cs rest : List Char} {key : Option String} :
    nextKey.key cs = .ok (key, rest) ↔
      ∃ tail text, cs = '"' :: tail ∧ readStringTail tail = .ok (text, rest) ∧
        key = some (String.ofList text) := by
  constructor
  · intro h
    unfold nextKey.key at h
    split at h
    · rename_i tail
      cases htext : readStringTail tail with
      | error f => simp [htext, Except.map] at h
      | ok p =>
        simp only [htext, Except.map, Except.ok.injEq, Prod.mk.injEq] at h
        obtain ⟨rfl, rfl⟩ := h
        exact ⟨tail, p.1, rfl, htext, rfl⟩
    · simp at h
  · rintro ⟨tail, text, rfl, htext, rfl⟩
    rw [nextKey.key, htext]
    rfl

-- What can come next in an object: its end, or a key, with a comma before it unless it is the
-- first.
theorem nextKey_eq_ok_iff {first : Bool} {cs rest : List Char} {key : Option String} :
    nextKey first cs = .ok (key, rest) ↔
      (key = none ∧ skipBlanks cs = '}' :: rest) ∨
      (first = true ∧ nextKey.key (skipBlanks cs) = .ok (key, rest)) ∨
      (first = false ∧ ∃ after, skipBlanks cs = ',' :: after ∧
        nextKey.key (skipBlanks after) = .ok (key, rest)) := by
  constructor
  · intro h
    unfold nextKey at h
    split at h
    · simp at h
    · rename_i hclose
      simp only [Except.ok.injEq, Prod.mk.injEq] at h
      obtain ⟨rfl, rfl⟩ := h
      exact .inl ⟨rfl, hclose⟩
    · rename_i c tail hclose hblanks
      cases first with
      | true =>
        rw [if_pos rfl, ← hblanks] at h
        exact .inr (.inl ⟨rfl, h⟩)
      | false =>
        rw [if_neg (by decide)] at h
        by_cases hcomma : c = ','
        · subst hcomma
          rw [if_pos rfl] at h
          split at h
          · simp at h
          · simp at h
          · exact .inr (.inr ⟨rfl, tail, hblanks, h⟩)
        · simp [hcomma] at h
  · rintro (⟨rfl, hclose⟩ | ⟨rfl, hkey⟩ | ⟨rfl, after, hcomma, hkey⟩)
    · simp only [nextKey, hclose]
    · obtain ⟨tail, text, hquote, -, -⟩ := nextKeyKey_eq_ok_iff.mp hkey
      rw [hquote] at hkey
      simp [nextKey, hquote, hkey]
    · obtain ⟨tail, text, hquote, -, -⟩ := nextKeyKey_eq_ok_iff.mp hkey
      rw [hquote] at hkey
      simp [nextKey, hcomma, hquote, hkey]

theorem readColon_eq_ok_iff {cs rest : List Char} :
    readColon cs = .ok rest ↔ skipBlanks cs = ':' :: rest := by
  constructor
  · intro h
    unfold readColon at h
    split at h
    · simp at h
    · rename_i hcolon
      rw [hcolon, Except.ok.inj h]
    · simp at h
  · intro h
    simp only [readColon, h]

-- What can come next in a list: its end, or an element, with a comma before it unless it is the
-- first.
theorem nextElement_eq_ok_iff {first more : Bool} {cs rest : List Char} :
    nextElement first cs = .ok (more, rest) ↔
      (more = false ∧ skipBlanks cs = ']' :: rest) ∨
      (more = true ∧ rest.head? ≠ some ']' ∧ rest.head? ≠ none ∧
        ((first = true ∧ skipBlanks cs = rest) ∨
          (first = false ∧ ∃ after, skipBlanks cs = ',' :: after ∧ skipBlanks after = rest))) := by
  constructor
  · intro h
    unfold nextElement at h
    split at h
    · simp at h
    · rename_i hclose
      simp only [Except.ok.injEq, Prod.mk.injEq] at h
      obtain ⟨rfl, rfl⟩ := h
      exact .inl ⟨rfl, hclose⟩
    · rename_i c tail hclose hblanks
      cases first with
      | true =>
        rw [if_pos rfl] at h
        simp only [Except.ok.injEq, Prod.mk.injEq] at h
        obtain ⟨rfl, rfl⟩ := h
        refine .inr ⟨rfl, ?_, by simp, .inl ⟨rfl, hblanks⟩⟩
        intro hc
        exact hclose (Option.some.inj hc)
      | false =>
        rw [if_neg (by decide)] at h
        by_cases hcomma : c = ','
        · subst hcomma
          rw [if_pos rfl] at h
          split at h
          · simp at h
          · simp at h
          · rename_i hend hlast
            simp only [Except.ok.injEq, Prod.mk.injEq] at h
            obtain ⟨rfl, rfl⟩ := h
            exact .inr ⟨rfl, ne_of_head?_eq rfl hlast, ne_none_of_head?_eq rfl hend,
              .inr ⟨rfl, tail, hblanks, rfl⟩⟩
        · simp [hcomma] at h
  · rintro (⟨rfl, hclose⟩ | ⟨rfl, hne, hend, ⟨rfl, rfl⟩ | ⟨rfl, after, hcomma, rfl⟩⟩)
    · simp only [nextElement, hclose]
    · unfold nextElement
      split <;> simp_all
    · simp [nextElement, hcomma]
      split <;> simp_all

theorem closeList_eq_ok_iff {cs rest : List Char} :
    closeList cs = .ok rest ↔ skipBlanks cs = ']' :: rest := by
  constructor
  · intro h
    unfold closeList at h
    split at h
    · simp at h
    · rename_i hclose
      rw [hclose, Except.ok.inj h]
    · split at h <;> simp at h
    · simp at h
  · intro h
    simp only [closeList, h]

theorem nextKeyKey_afterBlanks {cs rest : List Char} {key : Option String}
    (h : nextKey.key (skipBlanks cs) = .ok (key, rest)) :
    Ends (fun xs ys => nextKey.key (skipBlanks xs) = .ok (key, ys)) cs rest := by
  obtain ⟨tail, text, hquote, htext, rfl⟩ := nextKeyKey_eq_ok_iff.mp h
  refine (skipBlanks_ends hquote).comp (readStringTail_ends htext) fun hL hM => ?_
  exact nextKeyKey_eq_ok_iff.mpr ⟨_, text, hL, hM, rfl⟩

theorem nextKey_ends {first : Bool} {cs rest : List Char} {key : Option String}
    (h : nextKey first cs = .ok (key, rest)) :
    Ends (fun xs ys => nextKey first xs = .ok (key, ys)) cs rest := by
  rcases nextKey_eq_ok_iff.mp h with ⟨rfl, hclose⟩ | ⟨rfl, hkey⟩ | ⟨rfl, after, hcomma, hkey⟩
  · exact (skipBlanks_ends hclose).imp fun hL => nextKey_eq_ok_iff.mpr (.inl ⟨rfl, hL⟩)
  · exact (nextKeyKey_afterBlanks hkey).imp fun hL => nextKey_eq_ok_iff.mpr (.inr (.inl ⟨rfl, hL⟩))
  · exact (skipBlanks_ends hcomma).comp (nextKeyKey_afterBlanks hkey) fun hL hM =>
      nextKey_eq_ok_iff.mpr (.inr (.inr ⟨rfl, _, hL, hM⟩))

theorem readColon_ends {cs rest : List Char} (h : readColon cs = .ok rest) :
    Ends (fun xs ys => readColon xs = .ok ys) cs rest :=
  (skipBlanks_ends (readColon_eq_ok_iff.mp h)).imp readColon_eq_ok_iff.mpr

theorem nextElement_ends {first : Bool} {cs rest : List Char}
    (h : nextElement first cs = .ok (false, rest)) :
    Ends (fun xs ys => nextElement first xs = .ok (false, ys)) cs rest := by
  rcases nextElement_eq_ok_iff.mp h with ⟨-, hclose⟩ | ⟨hmore, -⟩
  · exact (skipBlanks_ends hclose).imp fun hL => nextElement_eq_ok_iff.mpr (.inl ⟨rfl, hL⟩)
  · exact Bool.noConfusion hmore

theorem nextElement_endsAhead {first : Bool} {cs item : List Char}
    (h : nextElement first cs = .ok (true, item)) :
    EndsAhead (fun xs ys => nextElement first xs = .ok (true, ys)) cs item := by
  rcases nextElement_eq_ok_iff.mp h with ⟨hmore, -⟩ | ⟨-, hne, hend, ⟨rfl, rfl⟩ | ⟨rfl, after,
    hcomma, rfl⟩⟩
  · exact Bool.noConfusion hmore
  · refine (skipBlanks_endsAhead cs).next.imp fun hL => ?_
    obtain ⟨hhead, hL⟩ := hL
    rw [← hhead] at hne hend
    exact nextElement_eq_ok_iff.mpr (.inr ⟨rfl, hne, hend, .inl ⟨rfl, hL⟩⟩)
  · refine (skipBlanks_ends hcomma).ahead.comp (skipBlanks_endsAhead after).next
      fun hL hM => ?_
    obtain ⟨hhead, hM⟩ := hM
    rw [← hhead] at hne hend
    exact nextElement_eq_ok_iff.mpr (.inr ⟨rfl, hne, hend, .inr ⟨rfl, _, hL, hM⟩⟩)

theorem closeList_ends {cs rest : List Char} (h : closeList cs = .ok rest) :
    Ends (fun xs ys => closeList xs = .ok ys) cs rest :=
  (skipBlanks_ends (closeList_eq_ok_iff.mp h)).imp closeList_eq_ok_iff.mpr

/-! ## 4. Records -/

section

variable {δ : Type} {fields : List (Field δ)} {first : Bool} {draft result : δ}
  {cs afterKey afterColon rest : List Char} {key : String}

theorem readMembers_of_end (hkey : nextKey first cs = .ok (none, rest)) :
    readMembers fields first draft cs = .ok (draft, rest) := by
  rw [readMembers]
  split <;> simp_all

theorem readMembers_of_unknown (hkey : nextKey first cs = .ok (some key, afterKey))
    (hfind : (fields.find? fun field => field.name == key) = none)
    (hcolon : readColon afterKey = .ok afterColon) (hvalue : skipValue afterColon = .ok rest) :
    readMembers fields first draft cs = readMembers fields false draft rest := by
  conv => lhs; rw [readMembers]
  split
  · simp_all
  · simp_all
  · rename_i heq
    simp only [hkey, Except.ok.injEq, Prod.mk.injEq, Option.some.injEq] at heq
    obtain ⟨rfl, rfl⟩ := heq
    rw [hfind]
    simp only
    split
    · simp_all
    · rename_i heq
      rw [hcolon] at heq
      obtain rfl := Except.ok.inj heq
      split <;> simp_all

theorem readMembers_of_field {field : Field δ} {value : field.kind.Value}
    (hkey : nextKey first cs = .ok (some key, afterKey))
    (hfind : (fields.find? fun field => field.name == key) = some field)
    (hset : field.isSet draft = false) (hcolon : readColon afterKey = .ok afterColon)
    (hvalue : readValue field.kind afterColon = .ok (value, rest)) :
    readMembers fields first draft cs = readMembers fields false (field.set value draft) rest := by
  conv => lhs; rw [readMembers]
  split
  · simp_all
  · simp_all
  · rename_i heq
    simp only [hkey, Except.ok.injEq, Prod.mk.injEq, Option.some.injEq] at heq
    obtain ⟨rfl, rfl⟩ := heq
    rw [hfind]
    simp only
    rw [if_neg (by rw [hset]; decide)]
    split
    · simp_all
    · rename_i heq
      rw [hcolon] at heq
      obtain rfl := Except.ok.inj heq
      split <;> simp_all

end

section

variable {δ α : Type}

theorem keyColon_ends {first : Bool} {cs afterKey afterColon : List Char} {key : Option String}
    (hkey : nextKey first cs = .ok (key, afterKey)) (hcolon : readColon afterKey = .ok afterColon) :
    Ends (fun xs ys => ∃ mid, nextKey first xs = .ok (key, mid) ∧ readColon mid = .ok ys) cs
      afterColon :=
  (nextKey_ends hkey).comp (readColon_ends hcolon) fun hL hM => ⟨_, hL, hM⟩

-- The members of an object: a value ends ahead, but there is always something of the object behind
-- it.
theorem readMembers_ends {fields : List (Field δ)} {first : Bool} {draft result : δ}
    {cs rest : List Char} (h : readMembers fields first draft cs = .ok (result, rest)) :
    Ends (fun xs ys => readMembers fields first draft xs = .ok (result, ys)) cs rest := by
  fun_induction readMembers fields first draft cs with
  | case1 => simp at h
  | case2 first draft cs after hkey =>
    simp only [Except.ok.injEq, Prod.mk.injEq] at h
    obtain ⟨rfl, rfl⟩ := h
    exact (nextKey_ends hkey).imp readMembers_of_end
  | case3 => simp at h
  | case4 => simp at h
  | case5 first draft cs key afterKey hkey hfind afterColon hcolon after hvalue ih =>
    -- the value is a number perhaps, but a comma or a brace is behind it
    have hrest : Ends (fun xs ys => ∃ mid, skipValue xs = .ok mid ∧
        readMembers fields false draft mid = .ok (result, ys)) afterColon rest :=
      (skipValue_endsAhead hvalue).comp_ends (ih h) (readMembers_length h)
        fun hL hM => ⟨_, hL, hM⟩
    refine (keyColon_ends hkey hcolon).comp hrest fun hL hM => ?_
    obtain ⟨afterKey, hK, hC⟩ := hL
    obtain ⟨afterValue, hV, hM⟩ := hM
    rw [readMembers_of_unknown hK hfind hC hV, hM]
  | case6 => simp at h
  | case7 => simp at h
  | case8 => simp at h
  | case9 first draft cs key afterKey hkey field hfind hset afterColon hcolon value after hvalue ih =>
    have hrest : Ends (fun xs ys => ∃ mid, readValue field.kind xs = .ok (value, mid) ∧
        readMembers fields false (field.set value draft) mid = .ok (result, ys)) afterColon rest :=
      (readValue_endsAhead hvalue).comp_ends (ih h) (readMembers_length h)
        fun hL hM => ⟨_, hL, hM⟩
    refine (keyColon_ends hkey hcolon).comp hrest fun hL hM => ?_
    obtain ⟨afterKey, hK, hC⟩ := hL
    obtain ⟨afterValue, hV, hM⟩ := hM
    rw [readMembers_of_field hK hfind (Bool.eq_false_iff.mpr hset) hC hV, hM]

theorem readElements_of_field {first : Bool} {field : Field δ} {fields : List (Field δ)}
    {draft : δ} {cs item rest : List Char} {value : field.kind.Value}
    (hnext : nextElement first cs = .ok (true, item))
    (hvalue : readValue field.kind item = .ok (value, rest)) :
    readElements first (field :: fields) draft cs =
      readElements false fields (field.set value draft) rest := by
  conv => lhs; rw [readElements]
  rw [hnext]
  simp only [hvalue]

theorem readElements_ends {first : Bool} {fields : List (Field δ)} {draft result : δ}
    {cs rest : List Char} (h : readElements first fields draft cs = .ok (result, rest)) :
    Ends (fun xs ys => readElements first fields draft xs = .ok (result, ys)) cs rest := by
  induction fields generalizing first draft cs with
  | nil =>
    rw [readElements] at h
    cases hclose : closeList cs with
    | error f => simp [hclose, Except.map] at h
    | ok after =>
      simp only [hclose, Except.map, Except.ok.injEq, Prod.mk.injEq] at h
      obtain ⟨rfl, rfl⟩ := h
      refine (closeList_ends hclose).imp fun hL => ?_
      rw [readElements, hL]
      rfl
  | cons field fields ih =>
    rcases hnext : nextElement first cs with f | ⟨more, item⟩
    · simp [readElements, hnext] at h
    cases more with
    | false =>
      simp only [readElements, hnext, Except.ok.injEq, Prod.mk.injEq] at h
      obtain ⟨rfl, rfl⟩ := h
      refine (nextElement_ends hnext).imp fun hL => ?_
      simp only [readElements, hL]
    | true =>
      rcases hvalue : readValue field.kind item with f | ⟨value, after⟩
      · simp [readElements, hnext, hvalue] at h
      rw [readElements_of_field hnext hvalue] at h
      have hitem : EndsAhead (fun xs ys => ∃ mid, nextElement first xs = .ok (true, mid) ∧
          readValue field.kind mid = .ok (value, ys)) cs after :=
        (nextElement_endsAhead hnext).comp (readValue_endsAhead hvalue) fun hL hM => ⟨_, hL, hM⟩
      refine hitem.comp_ends (ih h) (readElements_length h) fun hL hM => ?_
      obtain ⟨mid, hN, hV⟩ := hL
      rw [readElements_of_field hN hV, hM]

/-- Reading a record: the fields come from an object or from a list. -/
theorem Shape.read_eq_ok_iff {shape : Shape δ α} {cs rest : List Char} {record : α} :
    shape.read cs = .ok (record, rest) ↔
      ∃ draft, shape.finish draft = .ok record ∧
        ((∃ tail, skipBlanks cs = '{' :: tail ∧
            readMembers shape.fields true shape.start tail = .ok (draft, rest)) ∨
          ∃ tail, skipBlanks cs = '[' :: tail ∧
            readElements true shape.fields shape.start tail = .ok (draft, rest)) := by
  constructor
  · intro h
    unfold Shape.read at h
    split at h
    · rename_i tail hopen
      rcases hread : readMembers shape.fields true shape.start tail with f | ⟨draft, after⟩
      · simp [hread] at h
      simp only [hread] at h
      split at h
      · rename_i hfinish
        simp only [Except.ok.injEq, Prod.mk.injEq] at h
        obtain ⟨rfl, rfl⟩ := h
        exact ⟨draft, hfinish, .inl ⟨tail, hopen, hread⟩⟩
      · simp at h
    · rename_i tail hopen
      rcases hread : readElements true shape.fields shape.start tail with f | ⟨draft, after⟩
      · simp [hread] at h
      simp only [hread] at h
      split at h
      · rename_i hfinish
        simp only [Except.ok.injEq, Prod.mk.injEq] at h
        obtain ⟨rfl, rfl⟩ := h
        exact ⟨draft, hfinish, .inr ⟨tail, hopen, hread⟩⟩
      · simp at h
    · simp at h
  · rintro ⟨draft, hfinish, ⟨tail, hopen, hread⟩ | ⟨tail, hopen, hread⟩⟩
    · simp only [Shape.read, hopen, hread, hfinish]
    · simp only [Shape.read, hopen, hread, hfinish]

/-- A record is read in the same way whatever follows it. -/
theorem Shape.read_ends {shape : Shape δ α} {cs rest : List Char} {record : α}
    (h : shape.read cs = .ok (record, rest)) :
    Ends (fun xs ys => shape.read xs = .ok (record, ys)) cs rest := by
  obtain ⟨draft, hfinish, ⟨tail, hopen, hread⟩ | ⟨tail, hopen, hread⟩⟩ := Shape.read_eq_ok_iff.mp h
  · exact (skipBlanks_ends hopen).comp (readMembers_ends hread) fun hL hM =>
      Shape.read_eq_ok_iff.mpr ⟨draft, hfinish, .inl ⟨_, hL, hM⟩⟩
  · exact (skipBlanks_ends hopen).comp (readElements_ends hread) fun hL hM =>
      Shape.read_eq_ok_iff.mpr ⟨draft, hfinish, .inr ⟨_, hL, hM⟩⟩

end

end LoanPricing.Json
