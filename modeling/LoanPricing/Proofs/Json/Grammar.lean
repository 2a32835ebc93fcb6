import LoanPricing.Json.Value
import LoanPricing.Proofs.Json.Lists
import LoanPricing.Proofs.Json.Literals
import LoanPricing.Proofs.Json.Strings

/-!
# The grammar of JSON — values of any depth, and where they end

The texts of values, elements and members are defined by rules, without a reader. A value that is
skipped is passed over to its end and no further: the brackets that are open at the moment are those
of the parts that the rules have entered and not left.
-/

namespace LoanPricing.Json

open Text (isDigit)

/-! ## 1. The rules -/

inductive Part where
  | value
  /-- A value with blanks around it. -/
  | element
  /-- Elements with commas between them, at least one. -/
  | elements
  /-- A key, a colon and an element. -/
  | member
  /-- Members with commas between them, at least one. -/
  | members
  deriving DecidableEq, Repr

/-- The texts of the parts of a JSON text. Numbers may be of any size. -/
inductive IsPart : Part → List Char → Prop
  | null : IsPart .value ['n', 'u', 'l', 'l']
  | flag (b : Bool) : IsPart .value (writeFlag b)
  | number (l : Literal) : IsPart .value l.text
  | string {body : List Char} (h : IsBody body) : IsPart .value ('"' :: (body ++ ['"']))
  | emptyList {blanks : List Char} (h : IsBlanks blanks) : IsPart .value ('[' :: (blanks ++ [']']))
  | list {inner : List Char} (h : IsPart .elements inner) : IsPart .value ('[' :: (inner ++ [']']))
  | emptyObject {blanks : List Char} (h : IsBlanks blanks) :
      IsPart .value ('{' :: (blanks ++ ['}']))
  | object {inner : List Char} (h : IsPart .members inner) : IsPart .value ('{' :: (inner ++ ['}']))
  | element {before value after : List Char} (hbefore : IsBlanks before)
      (h : IsPart .value value) (hafter : IsBlanks after) :
      IsPart .element (before ++ (value ++ after))
  | lastElement {x : List Char} (h : IsPart .element x) : IsPart .elements x
  | moreElements {x xs : List Char} (h : IsPart .element x) (hxs : IsPart .elements xs) :
      IsPart .elements (x ++ ',' :: xs)
  | member {before body between x : List Char} (hbefore : IsBlanks before) (hbody : IsBody body)
      (hbetween : IsBlanks between) (h : IsPart .element x) :
      IsPart .member (before ++ '"' :: (body ++ '"' :: (between ++ ':' :: x)))
  | lastMember {x : List Char} (h : IsPart .member x) : IsPart .members x
  | moreMembers {x xs : List Char} (h : IsPart .member x) (hxs : IsPart .members xs) :
      IsPart .members (x ++ ',' :: xs)

/-- The text of a JSON value, without blanks around it. -/
abbrev IsValue (text : List Char) : Prop :=
  IsPart .value text

/-! ## 2. What parts begin with -/

theorem Stops.blanks {blanks rest : List Char} (hblanks : IsBlanks blanks) (hrest : Stops rest) :
    Stops (blanks ++ rest) := by
  cases blanks with
  | nil => exact hrest
  | cons b blanks =>
    intro c hc
    obtain rfl := Option.some.inj hc
    have hb := hblanks b List.mem_cons_self
    simp only [isBlank, Bool.or_eq_true, beq_iff_eq] at hb
    rcases hb with ((rfl | rfl) | rfl) | rfl <;> decide

theorem stops_cons {c : Char} (h : c = ',' ∨ c = ']' ∨ c = '}') (rest : List Char) :
    Stops (c :: rest) := by
  intro d hd
  obtain rfl := Option.some.inj hd
  rcases h with rfl | rfl | rfl <;> decide

theorem stops_nil : Stops [] := by
  intro c hc
  injection hc

/-- The characters that a value can begin with. -/
def StartsValue (c : Char) : Prop :=
  c ∈ ['n', 't', 'f', '"', '[', '{', '-'] ∨ isDigit c = true

theorem Literal.exists_head (l : Literal) :
    ∃ c tail, l.text = c :: tail ∧ (c = '-' ∨ isDigit c = true) := by
  obtain ⟨c, tail, hwhole, hc, -⟩ := l.whole_isDigits.cons
  unfold text
  cases l.negative with
  | true => exact ⟨'-', _, rfl, .inl rfl⟩
  | false => exact ⟨c, _, by rw [if_neg (by decide), magnitude, hwhole]; rfl, .inr hc⟩

theorem isBlank_of_isDigit {c : Char} (h : isDigit c = true) : isBlank c = false := by
  cases hblank : isBlank c with
  | false => rfl
  | true =>
    simp only [isBlank, Bool.or_eq_true, beq_iff_eq] at hblank
    rcases hblank with ((rfl | rfl) | rfl) | rfl <;> exact absurd h (by decide)

theorem StartsValue.spec {c : Char} (h : StartsValue c) :
    isBlank c = false ∧ c ≠ ']' ∧ c ≠ '}' := by
  rcases h with h | h
  · simp only [List.mem_cons, List.not_mem_nil, or_false] at h
    rcases h with rfl | rfl | rfl | rfl | rfl | rfl | rfl <;> decide
  · refine ⟨isBlank_of_isDigit h, ?_, ?_⟩
    · rintro rfl
      exact absurd h (by decide)
    · rintro rfl
      exact absurd h (by decide)

theorem IsValue.exists_head {value : List Char} (h : IsValue value) :
    ∃ c tail, value = c :: tail ∧ StartsValue c := by
  cases h with
  | null => exact ⟨_, _, rfl, .inl (by decide)⟩
  | flag b => cases b <;> exact ⟨_, _, rfl, .inl (by decide)⟩
  | number l =>
    obtain ⟨c, tail, htext, rfl | hc⟩ := l.exists_head
    · exact ⟨_, tail, htext, .inl (by decide)⟩
    · exact ⟨c, tail, htext, .inr hc⟩
  | string => exact ⟨_, _, rfl, .inl (by decide)⟩
  | emptyList => exact ⟨_, _, rfl, .inl (by decide)⟩
  | list => exact ⟨_, _, rfl, .inl (by decide)⟩
  | emptyObject => exact ⟨_, _, rfl, .inl (by decide)⟩
  | object => exact ⟨_, _, rfl, .inl (by decide)⟩

theorem IsValue.skipBlanks_eq {value : List Char} (h : IsValue value) (rest : List Char) :
    skipBlanks (value ++ rest) = value ++ rest := by
  obtain ⟨c, tail, rfl, hc⟩ := h.exists_head
  exact skipBlanks_of_not hc.spec.1 _

/-- Every part begins, blanks aside, with a character that closes no bracket. -/
theorem IsPart.exists_head {part : Part} {text : List Char} (h : IsPart part text)
    (rest : List Char) :
    ∃ c tail, skipBlanks (text ++ rest) = c :: tail ∧ c ≠ ']' ∧ c ≠ '}' := by
  have hvalue : ∀ {value : List Char}, IsValue value → ∀ rest,
      ∃ c tail, skipBlanks (value ++ rest) = c :: tail ∧ c ≠ ']' ∧ c ≠ '}' := by
    intro value hvalue rest
    obtain ⟨c, tail, rfl, hc⟩ := hvalue.exists_head
    exact ⟨c, tail ++ rest, skipBlanks_of_not hc.spec.1 _, hc.spec.2⟩
  induction h generalizing rest with
  | null => exact hvalue .null rest
  | flag b => exact hvalue (.flag b) rest
  | number l => exact hvalue (.number l) rest
  | string h => exact hvalue (.string h) rest
  | emptyList h => exact hvalue (.emptyList h) rest
  | list h => exact hvalue (.list h) rest
  | emptyObject h => exact hvalue (.emptyObject h) rest
  | object h => exact hvalue (.object h) rest
  | element hbefore _ _ ih =>
    rw [List.append_assoc, List.append_assoc, skipBlanks_append hbefore]
    exact ih _
  | lastElement _ ih => exact ih rest
  | moreElements _ _ ih =>
    rw [List.append_assoc]
    exact ih _
  | member hbefore =>
    rw [List.append_assoc, skipBlanks_append hbefore]
    exact ⟨_, _, skipBlanks_of_not (by decide) _, by decide⟩
  | lastMember _ ih => exact ih rest
  | moreMembers _ _ ih =>
    rw [List.append_assoc]
    exact ih _

/-! ## 3. Skipping -/

theorem skipScalar_literal (l : Literal) {rest : List Char} (hrest : Stops rest) :
    skipScalar (l.text ++ rest) = .ok rest := by
  have hskip := skipNumber_literal l hrest
  obtain ⟨c, tail, htext, hc⟩ := l.exists_head
  rw [htext] at hskip ⊢
  rw [List.cons_append] at hskip ⊢
  rw [skipScalar, if_pos hc, hskip]
  all_goals
    rintro rfl
    revert hc
    decide

/-- What it means for a part that it is skipped to its end. After an element the blanks at its end
may be left, as only the reader of what follows passes over them. -/
def IsSkipped : Part → List Char → Prop
  | .value, text =>
    ∀ stack cs rest, skipBlanks cs = text ++ rest → Stops rest →
      skipFrom .value stack cs = skipFrom .next stack rest
  | .element, text =>
    ∃ blanks, IsBlanks blanks ∧
      ∀ stack cs rest, skipBlanks cs = skipBlanks (text ++ rest) → Stops rest →
        skipFrom .value stack cs = skipFrom .next stack (blanks ++ rest)
  | .elements, text =>
    ∀ outer cs rest, skipBlanks cs = skipBlanks (text ++ ']' :: rest) →
      skipFrom .value (.list :: outer) cs = skipFrom .next outer rest
  | .member, text =>
    ∃ blanks, IsBlanks blanks ∧
      ∀ stack cs rest, skipBlanks cs = skipBlanks (text ++ rest) → Stops rest →
        skipFrom .member stack cs = skipFrom .next stack (blanks ++ rest)
  | .members, text =>
    ∀ outer cs rest, skipBlanks cs = skipBlanks (text ++ '}' :: rest) →
      skipFrom .member (.object :: outer) cs = skipFrom .next outer rest

theorem isSkipped_scalar {text : List Char} {c : Char} (hhead : text.head? = some c)
    (hc : c ≠ '[' ∧ c ≠ '{')
    (hscalar : ∀ rest, Stops rest → skipScalar (text ++ rest) = .ok rest) :
    IsSkipped .value text := by
  intro stack cs rest hcs hrest
  obtain ⟨tail, rfl⟩ := List.head?_eq_some_iff.mp hhead
  refine skipFrom_scalar hcs ?_ ?_ (hscalar rest hrest)
  · rw [List.cons_append, List.head?_cons]
    exact fun h => hc.1 (Option.some.inj h)
  · rw [List.cons_append, List.head?_cons]
    exact fun h => hc.2 (Option.some.inj h)

theorem skipBlanks_close {blanks : List Char} (h : IsBlanks blanks) {c : Char}
    (hc : isBlank c = false) (rest : List Char) :
    skipBlanks (blanks ++ c :: rest) = c :: rest := by
  rw [skipBlanks_append h, skipBlanks_of_not hc]

theorem IsPart.isSkipped {part : Part} {text : List Char} (h : IsPart part text) :
    IsSkipped part text := by
  induction h with
  | null => exact isSkipped_scalar rfl (by decide) fun rest _ => rfl
  | flag b =>
    cases b with
    | true => exact isSkipped_scalar rfl (by decide) fun rest _ => rfl
    | false => exact isSkipped_scalar rfl (by decide) fun rest _ => rfl
  | number l =>
    obtain ⟨c, tail, htext, hc⟩ := l.exists_head
    refine isSkipped_scalar (c := c) (by rw [htext]; rfl) ?_ fun rest => skipScalar_literal l
    constructor
    · rintro rfl
      exact absurd hc (by decide)
    · rintro rfl
      exact absurd hc (by decide)
  | string hbody =>
    refine isSkipped_scalar (c := '"') rfl (by decide) fun rest _ => ?_
    rw [List.cons_append, List.append_assoc, skipScalar]
    exact skipStringTail_append hbody rest
  | emptyList hblanks =>
    intro stack cs rest hcs _
    rw [List.cons_append, List.append_assoc] at hcs
    exact skipFrom_emptyList hcs (skipBlanks_close hblanks (by decide) rest)
  | list hinner ih =>
    intro stack cs rest hcs _
    rw [List.cons_append, List.append_assoc] at hcs
    obtain ⟨c, tail, hhead, hlist, -⟩ := hinner.exists_head (']' :: rest)
    rw [skipFrom_list hcs rfl]
    · exact ih _ _ _ (skipBlanks_idem _)
    · rw [List.singleton_append, hhead, List.head?_cons]
      exact fun h => hlist (Option.some.inj h)
    · rw [List.singleton_append, hhead, List.head?_cons]
      exact Option.some_ne_none c
  | emptyObject hblanks =>
    intro stack cs rest hcs _
    rw [List.cons_append, List.append_assoc] at hcs
    exact skipFrom_emptyObject hcs (skipBlanks_close hblanks (by decide) rest)
  | object hinner ih =>
    intro stack cs rest hcs _
    rw [List.cons_append, List.append_assoc] at hcs
    obtain ⟨c, tail, hhead, -, hobject⟩ := hinner.exists_head ('}' :: rest)
    rw [skipFrom_object hcs rfl]
    · exact ih _ _ _ (skipBlanks_idem _)
    · rw [List.singleton_append, hhead, List.head?_cons]
      exact fun h => hobject (Option.some.inj h)
    · rw [List.singleton_append, hhead, List.head?_cons]
      exact Option.some_ne_none c
  | @element before value after hbefore hvalue hafter ih =>
    refine ⟨after, hafter, fun stack cs rest hcs hrest => ?_⟩
    rw [List.append_assoc, List.append_assoc, skipBlanks_append hbefore,
      IsValue.skipBlanks_eq hvalue] at hcs
    exact ih stack cs _ hcs (hrest.blanks hafter)
  | lastElement _ ih =>
    obtain ⟨blanks, hblanks, ih⟩ := ih
    intro outer cs rest hcs
    rw [ih _ cs _ hcs (stops_cons (by decide) rest),
      skipFrom_listEnd (skipBlanks_close hblanks (by decide) rest)]
  | @moreElements x xs _ _ ih ihxs =>
    obtain ⟨blanks, hblanks, ih⟩ := ih
    intro outer cs rest hcs
    rw [List.append_assoc, List.cons_append] at hcs
    rw [ih _ cs _ hcs (stops_cons (by decide) _),
      skipFrom_listComma (skipBlanks_close hblanks (by decide) _)]
    exact ihxs _ _ _ rfl
  | @member before body between x hbefore hbody hbetween _ ih =>
    obtain ⟨blanks, hblanks, ih⟩ := ih
    refine ⟨blanks, hblanks, fun stack cs rest hcs hrest => ?_⟩
    rw [List.append_assoc, skipBlanks_append hbefore, List.cons_append,
      skipBlanks_of_not (by decide), List.append_assoc, List.cons_append, List.append_assoc,
      List.cons_append] at hcs
    have hkey := skipKey_of_colon (skipStringTail_append hbody _)
      (skipBlanks_close hbetween (by decide) (x ++ rest))
    rw [← hcs] at hkey
    rw [skipFrom_member hkey]
    exact ih _ _ _ rfl hrest
  | lastMember _ ih =>
    obtain ⟨blanks, hblanks, ih⟩ := ih
    intro outer cs rest hcs
    rw [ih _ cs _ hcs (stops_cons (by decide) rest),
      skipFrom_objectEnd (skipBlanks_close hblanks (by decide) rest)]
  | @moreMembers x xs _ _ ih ihxs =>
    obtain ⟨blanks, hblanks, ih⟩ := ih
    intro outer cs rest hcs
    rw [List.append_assoc, List.cons_append] at hcs
    rw [ih _ cs _ hcs (stops_cons (by decide) _),
      skipFrom_objectComma (skipBlanks_close hblanks (by decide) _)]
    exact ihxs _ _ _ rfl

/-- A value is skipped to its end, with blanks before it or not. -/
theorem skipValue_append {before value rest : List Char} (hbefore : IsBlanks before)
    (hvalue : IsValue value) (hrest : Stops rest) :
    skipValue (before ++ (value ++ rest)) = .ok rest := by
  have hcs : skipBlanks (before ++ (value ++ rest)) = value ++ rest := by
    rw [skipBlanks_append hbefore, hvalue.skipBlanks_eq]
  rw [skipValue, hvalue.isSkipped [] _ rest hcs hrest, skipFrom_end]

end LoanPricing.Json
