import LoanPricing.Proofs.Json.Grammar

/-!
# Documents — JSON texts of any shape, and what they mean

The rules of the grammar are given once more, this time with what every part means: strings stand
for the texts that they spell, numbers for themselves as they are written. A reader that knows no
more of a text than that it should be JSON follows the brackets with a stack. It reads every text of
the grammar as what it means, so that a text has one meaning at most.
-/

namespace LoanPricing.Json

open Text (isDigit)

/-! ## 1. Meanings -/

/-- What a JSON text means. The members of an object keep their order. -/
inductive Document where
  | null
  | flag (b : Bool)
  /-- A number, by its text. -/
  | number (text : List Char)
  | text (s : String)
  | list (items : List Document)
  | object (members : List (String × Document))

/-- What is meant by the parts of a JSON text. -/
abbrev Meaning : Part → Type
  | .value => Document
  | .element => Document
  | .elements => List Document
  | .member => String × Document
  | .members => List (String × Document)

/-- The texts of the parts of a JSON text with their meanings. -/
inductive Means : (part : Part) → List Char → Meaning part → Prop
  | null : Means .value ['n', 'u', 'l', 'l'] Document.null
  | flag (b : Bool) : Means .value (writeFlag b) (Document.flag b)
  | number (l : Literal) : Means .value l.text (Document.number l.text)
  | string {body text : List Char} (h : Spells body text) :
      Means .value ('"' :: (body ++ ['"'])) (Document.text (String.ofList text))
  | emptyList {blanks : List Char} (h : IsBlanks blanks) :
      Means .value ('[' :: (blanks ++ [']'])) (Document.list [])
  | list {inner : List Char} {ds : List Document} (h : Means .elements inner ds) :
      Means .value ('[' :: (inner ++ [']'])) (Document.list ds)
  | emptyObject {blanks : List Char} (h : IsBlanks blanks) :
      Means .value ('{' :: (blanks ++ ['}'])) (Document.object [])
  | object {inner : List Char} {ms : List (String × Document)} (h : Means .members inner ms) :
      Means .value ('{' :: (inner ++ ['}'])) (Document.object ms)
  | element {before value after : List Char} {d : Document} (hbefore : IsBlanks before)
      (h : Means .value value d) (hafter : IsBlanks after) :
      Means .element (before ++ (value ++ after)) d
  | lastElement {x : List Char} {d : Document} (h : Means .element x d) : Means .elements x [d]
  | moreElements {x xs : List Char} {d : Document} {ds : List Document} (h : Means .element x d)
      (hxs : Means .elements xs ds) : Means .elements (x ++ ',' :: xs) (d :: ds)
  | member {before body text between x : List Char} {d : Document} (hbefore : IsBlanks before)
      (hbody : Spells body text) (hbetween : IsBlanks between) (h : Means .element x d) :
      Means .member (before ++ '"' :: (body ++ '"' :: (between ++ ':' :: x)))
        (String.ofList text, d)
  | lastMember {x : List Char} {m : String × Document} (h : Means .member x m) :
      Means .members x [m]
  | moreMembers {x xs : List Char} {m : String × Document} {ms : List (String × Document)}
      (h : Means .member x m) (hxs : Means .members xs ms) :
      Means .members (x ++ ',' :: xs) (m :: ms)

/-- A text with a meaning is one of the grammar. -/
theorem Means.isPart {part : Part} {text : List Char} {d : Meaning part} (h : Means part text d) :
    IsPart part text := by
  induction h with
  | null => exact .null
  | flag b => exact .flag b
  | number l => exact .number l
  | string h => exact .string h.isBody
  | emptyList h => exact .emptyList h
  | list _ ih => exact .list ih
  | emptyObject h => exact .emptyObject h
  | object _ ih => exact .object ih
  | element hbefore _ hafter ih => exact .element hbefore ih hafter
  | lastElement _ ih => exact .lastElement ih
  | moreElements _ _ ih ihxs => exact .moreElements ih ihxs
  | member hbefore hbody hbetween _ ih => exact .member hbefore hbody.isBody hbetween ih
  | lastMember _ ih => exact .lastMember ih
  | moreMembers _ _ ih ihxs => exact .moreMembers ih ihxs

/-! ## 2. The reader -/

/-- A bracket that is open, with what has been read inside it. In an object the value of the last
key is still to come. -/
inductive Frame where
  | list (before : List Document)
  | object (before : List (String × Document)) (key : String)

/-- What has been read, and so what has to come next. -/
inductive Point where
  /-- A value has to come. -/
  | value
  /-- A member has to come after those of an object that is open. -/
  | member (before : List (String × Document))
  /-- A value has been read. A comma or the closing bracket has to come; the end, if no bracket is
  open. -/
  | next (d : Document)

/-- The meaning of a value without brackets, from its first character, and what follows it. -/
def readScalar : List Char → Option (Document × List Char)
  | 'n' :: cs => (readWord ['u', 'l', 'l'] cs).toOption.map fun rest => (.null, rest)
  | 't' :: cs => (readWord ['r', 'u', 'e'] cs).toOption.map fun rest => (.flag true, rest)
  | 'f' :: cs => (readWord ['a', 'l', 's', 'e'] cs).toOption.map fun rest => (.flag false, rest)
  | '"' :: cs =>
    (readStringTail cs).toOption.map fun (text, rest) => (.text (String.ofList text), rest)
  | [] => none
  | c :: cs =>
    if c = '-' ∨ isDigit c then
      (skipNumber (c :: cs)).toOption.map fun rest =>
        (.number ((c :: cs).take ((c :: cs).length - rest.length)), rest)
    else none

/-- The key of a member, from its first character, and what follows its colon. -/
def readKey : List Char → Option (String × List Char)
  | '"' :: cs =>
    match readStringTail cs with
    | .error _ => none
    | .ok (text, rest) =>
      match skipBlanks rest with
      | ':' :: rest => some (String.ofList text, rest)
      | _ => none
  | _ => none

theorem eq_ok_of_toOption_map {ε α β : Type} {x : Except ε α} {f : α → β} {b : β}
    (h : x.toOption.map f = some b) : ∃ a, x = .ok a ∧ f a = b := by
  cases x with
  | error e => simp [Except.toOption] at h
  | ok a => exact ⟨a, rfl, Option.some.inj h⟩

theorem readScalar_length {cs rest : List Char} {d : Document}
    (h : readScalar cs = some (d, rest)) : rest.length < cs.length := by
  have hword : ∀ {word tail : List Char} {e : Document},
      (readWord word tail).toOption.map (fun rest => (e, rest)) = some (d, rest) →
        rest.length < tail.length + 1 := by
    intro word tail e hmap
    obtain ⟨after, hread, heq⟩ := eq_ok_of_toOption_map hmap
    obtain ⟨-, rfl⟩ := Prod.mk.inj heq
    exact Nat.lt_succ_of_le (readWord_length hread)
  unfold readScalar at h
  split at h
  · exact hword h
  · exact hword h
  · exact hword h
  · obtain ⟨⟨text, after⟩, hread, heq⟩ := eq_ok_of_toOption_map h
    obtain ⟨-, rfl⟩ := Prod.mk.inj heq
    exact Nat.lt_succ_of_lt (readStringTail_length hread)
  · injection h
  · split at h
    · obtain ⟨after, hskip, heq⟩ := eq_ok_of_toOption_map h
      obtain ⟨-, rfl⟩ := Prod.mk.inj heq
      exact skipNumber_length hskip
    · injection h

theorem readKey_length {cs rest : List Char} {key : String} (h : readKey cs = some (key, rest)) :
    rest.length < cs.length := by
  unfold readKey at h
  split at h
  · split at h
    · injection h
    · rename_i hread
      have hbody := readStringTail_length hread
      split at h
      · rename_i hcolon
        have hafter := length_of_skipBlanks_cons hcolon
        obtain ⟨-, rfl⟩ := Prod.mk.inj (Option.some.inj h)
        simp only [List.length_cons]
        omega
      · injection h
  · injection h

/-- The meaning of the rest of a value, with the given brackets open, innermost first, and what
follows it. -/
def readFrom (point : Point) (stack : List Frame) (cs : List Char) :
    Option (Document × List Char) :=
  match point with
  | .value =>
    match _hb : skipBlanks cs with
    | '[' :: cs =>
      match _hc : skipBlanks cs with
      | ']' :: rest => readFrom (.next (.list [])) stack rest
      | cs => readFrom .value (.list [] :: stack) cs
    | '{' :: cs =>
      match _hc : skipBlanks cs with
      | '}' :: rest => readFrom (.next (.object [])) stack rest
      | cs => readFrom (.member []) stack cs
    | cs =>
      match _hs : readScalar cs with
      | some (d, rest) => readFrom (.next d) stack rest
      | none => none
  | .member before =>
    match _hk : readKey (skipBlanks cs) with
    | some (key, rest) => readFrom .value (.object before key :: stack) rest
    | none => none
  | .next d =>
    match stack with
    | [] => some (d, cs)
    | .list before :: outer =>
      match _hb : skipBlanks cs with
      | ',' :: cs => readFrom .value (.list (before ++ [d]) :: outer) cs
      | ']' :: cs => readFrom (.next (.list (before ++ [d]))) outer cs
      | _ => none
    | .object before key :: outer =>
      match _hb : skipBlanks cs with
      | ',' :: cs => readFrom (.member (before ++ [(key, d)])) outer cs
      | '}' :: cs => readFrom (.next (.object (before ++ [(key, d)]))) outer cs
      | _ => none
termination_by cs.length
decreasing_by
  · have hopen := length_of_skipBlanks_cons _hb
    have hclose := length_of_skipBlanks_cons _hc
    omega
  · have hopen := length_of_skipBlanks_cons _hb
    have hmid := length_of_skipBlanks_eq _hc
    omega
  · have hopen := length_of_skipBlanks_cons _hb
    have hclose := length_of_skipBlanks_cons _hc
    omega
  · have hopen := length_of_skipBlanks_cons _hb
    have hmid := length_of_skipBlanks_eq _hc
    omega
  · have hmid := length_of_skipBlanks_eq _hb
    have hscalar := readScalar_length _hs
    omega
  · have hkey := readKey_length _hk
    have hmid := skipBlanks_length cs
    omega
  · exact length_of_skipBlanks_cons _hb
  · exact length_of_skipBlanks_cons _hb
  · exact length_of_skipBlanks_cons _hb
  · exact length_of_skipBlanks_cons _hb

/-- What a text means that has nothing in it but a JSON value and blanks. -/
def Document.read (text : String) : Option Document :=
  match readFrom .value [] text.toList with
  | some (d, rest) => if skipBlanks rest = [] then some d else none
  | none => none

/-! ## 3. One step of the reader -/

section

variable {stack outer : List Frame} {cs after mid rest : List Char} {d : Document}
  {before : List Document} {fields : List (String × Document)} {key : String}

theorem readFrom_emptyList (hopen : skipBlanks cs = '[' :: after)
    (hclose : skipBlanks after = ']' :: rest) :
    readFrom .value stack cs = readFrom (.next (.list [])) stack rest := by
  rw [readFrom]
  split
  · split <;> simp_all
  all_goals simp_all

theorem readFrom_list (hopen : skipBlanks cs = '[' :: after)
    (hclose : (skipBlanks after).head? ≠ some ']') :
    readFrom .value stack cs = readFrom .value (.list [] :: stack) (skipBlanks after) := by
  rw [readFrom]
  split
  · split <;> simp_all
  all_goals simp_all

theorem readFrom_emptyObject (hopen : skipBlanks cs = '{' :: after)
    (hclose : skipBlanks after = '}' :: rest) :
    readFrom .value stack cs = readFrom (.next (.object [])) stack rest := by
  rw [readFrom]
  split
  · simp_all
  · split <;> simp_all
  · simp_all

theorem readFrom_object (hopen : skipBlanks cs = '{' :: after)
    (hclose : (skipBlanks after).head? ≠ some '}') :
    readFrom .value stack cs = readFrom (.member []) stack (skipBlanks after) := by
  rw [readFrom]
  split
  · simp_all
  · split <;> simp_all
  · simp_all

theorem readFrom_scalar (hlist : (skipBlanks cs).head? ≠ some '[')
    (hobject : (skipBlanks cs).head? ≠ some '{')
    (hscalar : readScalar (skipBlanks cs) = some (d, rest)) :
    readFrom .value stack cs = readFrom (.next d) stack rest := by
  rw [readFrom]
  split
  · simp_all
  · simp_all
  · split <;> simp_all

theorem readFrom_member (hkey : readKey (skipBlanks cs) = some (key, rest)) :
    readFrom (.member fields) stack cs = readFrom .value (.object fields key :: stack) rest := by
  conv => lhs; rw [readFrom]
  split <;> simp_all

theorem readFrom_end : readFrom (.next d) [] cs = some (d, cs) := by
  rw [readFrom]

theorem readFrom_listComma (hcomma : skipBlanks cs = ',' :: rest) :
    readFrom (.next d) (.list before :: outer) cs =
      readFrom .value (.list (before ++ [d]) :: outer) rest := by
  conv => lhs; rw [readFrom]
  split <;> simp_all

theorem readFrom_listEnd (hclose : skipBlanks cs = ']' :: rest) :
    readFrom (.next d) (.list before :: outer) cs =
      readFrom (.next (.list (before ++ [d]))) outer rest := by
  conv => lhs; rw [readFrom]
  split <;> simp_all

theorem readFrom_objectComma (hcomma : skipBlanks cs = ',' :: rest) :
    readFrom (.next d) (.object fields key :: outer) cs =
      readFrom (.member (fields ++ [(key, d)])) outer rest := by
  conv => lhs; rw [readFrom]
  split <;> simp_all

theorem readFrom_objectEnd (hclose : skipBlanks cs = '}' :: rest) :
    readFrom (.next d) (.object fields key :: outer) cs =
      readFrom (.next (.object (fields ++ [(key, d)]))) outer rest := by
  conv => lhs; rw [readFrom]
  split <;> simp_all

end

/-! ## 4. Reading what is meant -/

theorem readScalar_literal (l : Literal) {rest : List Char} (hrest : Stops rest) :
    readScalar (l.text ++ rest) = some (.number l.text, rest) := by
  have hskip := skipNumber_literal l hrest
  have htake : (l.text ++ rest).take ((l.text ++ rest).length - rest.length) = l.text := by
    rw [List.length_append, Nat.add_sub_cancel, List.take_left]
  obtain ⟨c, tail, htext, hc⟩ := l.exists_head
  rw [htext, List.cons_append] at hskip htake ⊢
  rw [readScalar, if_pos hc, hskip]
  · rw [← htake]
    rfl
  all_goals
    rintro rfl
    revert hc
    decide

theorem readKey_of_colon {body text between : List Char} (hbody : Spells body text)
    (hbetween : IsBlanks between) (rest : List Char) :
    readKey ('"' :: (body ++ '"' :: (between ++ ':' :: rest))) =
      some (String.ofList text, rest) := by
  have hcolon := skipBlanks_close hbetween (by decide : isBlank ':' = false) rest
  simp only [readKey, readStringTail_append hbody, hcolon]

/-- What it means for a part that it is read to its end as what it means. After an element the
blanks at its end may be left, as only the reader of what follows passes over them. -/
def IsRead : (part : Part) → List Char → Meaning part → Prop
  | .value, text, d =>
    ∀ stack cs rest, skipBlanks cs = text ++ rest → Stops rest →
      readFrom .value stack cs = readFrom (.next d) stack rest
  | .element, text, d =>
    ∃ blanks, IsBlanks blanks ∧
      ∀ stack cs rest, skipBlanks cs = skipBlanks (text ++ rest) → Stops rest →
        readFrom .value stack cs = readFrom (.next d) stack (blanks ++ rest)
  | .elements, text, ds =>
    ∀ before outer cs rest, skipBlanks cs = skipBlanks (text ++ ']' :: rest) →
      readFrom .value (.list before :: outer) cs =
        readFrom (.next (.list (before ++ ds))) outer rest
  | .member, text, (key, d) =>
    ∃ blanks, IsBlanks blanks ∧
      ∀ before stack cs rest, skipBlanks cs = skipBlanks (text ++ rest) → Stops rest →
        readFrom (.member before) stack cs =
          readFrom (.next d) (.object before key :: stack) (blanks ++ rest)
  | .members, text, ms =>
    ∀ before outer cs rest, skipBlanks cs = skipBlanks (text ++ '}' :: rest) →
      readFrom (.member before) outer cs = readFrom (.next (.object (before ++ ms))) outer rest

theorem isRead_scalar {text : List Char} {c : Char} {d : Document} (hhead : text.head? = some c)
    (hc : c ≠ '[' ∧ c ≠ '{')
    (hscalar : ∀ rest, Stops rest → readScalar (text ++ rest) = some (d, rest)) :
    IsRead .value text d := by
  intro stack cs rest hcs hrest
  obtain ⟨tail, rfl⟩ := List.head?_eq_some_iff.mp hhead
  refine readFrom_scalar ?_ ?_ (by rw [hcs]; exact hscalar rest hrest)
  · rw [hcs, List.cons_append, List.head?_cons]
    exact fun h => hc.1 (Option.some.inj h)
  · rw [hcs, List.cons_append, List.head?_cons]
    exact fun h => hc.2 (Option.some.inj h)

theorem Means.isRead {part : Part} {text : List Char} {d : Meaning part} (h : Means part text d) :
    IsRead part text d := by
  induction h with
  | null => exact isRead_scalar rfl (by decide) fun rest _ => rfl
  | flag b =>
    cases b with
    | true => exact isRead_scalar rfl (by decide) fun rest _ => rfl
    | false => exact isRead_scalar rfl (by decide) fun rest _ => rfl
  | number l =>
    obtain ⟨c, tail, htext, hc⟩ := l.exists_head
    refine isRead_scalar (c := c) (by rw [htext]; rfl) ?_ fun rest => readScalar_literal l
    constructor
    · rintro rfl
      exact absurd hc (by decide)
    · rintro rfl
      exact absurd hc (by decide)
  | string hbody =>
    refine isRead_scalar (c := '"') rfl (by decide) fun rest _ => ?_
    rw [List.cons_append, List.append_assoc, readScalar]
    simp only [List.singleton_append, readStringTail_append hbody]
    rfl
  | emptyList hblanks =>
    intro stack cs rest hcs _
    rw [List.cons_append, List.append_assoc] at hcs
    exact readFrom_emptyList hcs (skipBlanks_close hblanks (by decide) rest)
  | list hinner ih =>
    intro stack cs rest hcs _
    rw [List.cons_append, List.append_assoc] at hcs
    obtain ⟨c, tail, hhead, hlist, -⟩ := hinner.isPart.exists_head (']' :: rest)
    rw [readFrom_list hcs]
    · exact ih [] _ _ _ (skipBlanks_idem _)
    · rw [List.singleton_append, hhead, List.head?_cons]
      exact fun h => hlist (Option.some.inj h)
  | emptyObject hblanks =>
    intro stack cs rest hcs _
    rw [List.cons_append, List.append_assoc] at hcs
    exact readFrom_emptyObject hcs (skipBlanks_close hblanks (by decide) rest)
  | object hinner ih =>
    intro stack cs rest hcs _
    rw [List.cons_append, List.append_assoc] at hcs
    obtain ⟨c, tail, hhead, -, hobject⟩ := hinner.isPart.exists_head ('}' :: rest)
    rw [readFrom_object hcs]
    · exact ih [] _ _ _ (skipBlanks_idem _)
    · rw [List.singleton_append, hhead, List.head?_cons]
      exact fun h => hobject (Option.some.inj h)
  | @element before value after d hbefore hvalue hafter ih =>
    refine ⟨after, hafter, fun stack cs rest hcs hrest => ?_⟩
    rw [List.append_assoc, List.append_assoc, skipBlanks_append hbefore,
      IsValue.skipBlanks_eq hvalue.isPart] at hcs
    exact ih stack cs _ hcs (hrest.blanks hafter)
  | lastElement _ ih =>
    obtain ⟨blanks, hblanks, ih⟩ := ih
    intro before outer cs rest hcs
    rw [ih _ cs _ hcs (stops_cons (by decide) rest),
      readFrom_listEnd (skipBlanks_close hblanks (by decide) rest)]
  | @moreElements x xs d ds _ _ ih ihxs =>
    obtain ⟨blanks, hblanks, ih⟩ := ih
    intro before outer cs rest hcs
    rw [List.append_assoc, List.cons_append] at hcs
    rw [ih _ cs _ hcs (stops_cons (by decide) _),
      readFrom_listComma (skipBlanks_close hblanks (by decide) _), ihxs _ _ _ _ rfl,
      List.append_assoc, List.singleton_append]
  | @member before body text between x d hbefore hbody hbetween _ ih =>
    obtain ⟨blanks, hblanks, ih⟩ := ih
    refine ⟨blanks, hblanks, fun fields stack cs rest hcs hrest => ?_⟩
    rw [List.append_assoc, skipBlanks_append hbefore, List.cons_append,
      skipBlanks_of_not (by decide), List.append_assoc, List.cons_append, List.append_assoc,
      List.cons_append] at hcs
    have hkey := readKey_of_colon hbody hbetween (x ++ rest)
    rw [← hcs] at hkey
    rw [readFrom_member hkey]
    exact ih _ _ _ rfl hrest
  | lastMember _ ih =>
    obtain ⟨blanks, hblanks, ih⟩ := ih
    intro before outer cs rest hcs
    rw [ih _ _ cs _ hcs (stops_cons (by decide) rest),
      readFrom_objectEnd (skipBlanks_close hblanks (by decide) rest)]
  | @moreMembers x xs m ms _ _ ih ihxs =>
    obtain ⟨blanks, hblanks, ih⟩ := ih
    intro before outer cs rest hcs
    rw [List.append_assoc, List.cons_append] at hcs
    rw [ih _ _ cs _ hcs (stops_cons (by decide) _),
      readFrom_objectComma (skipBlanks_close hblanks (by decide) _), ihxs _ _ _ _ rfl,
      List.append_assoc, List.singleton_append]

/-- A value is read as what it means, with blanks around it or not. -/
theorem Means.read_eq {before value after : List Char} {d : Document} (hbefore : IsBlanks before)
    (hvalue : Means .value value d) (hafter : IsBlanks after) :
    Document.read (String.ofList (before ++ (value ++ after))) = some d := by
  have hcs : skipBlanks (before ++ (value ++ after)) = value ++ after := by
    rw [skipBlanks_append hbefore, IsValue.skipBlanks_eq hvalue.isPart]
  have hstops : Stops after := by
    have := stops_nil.blanks hafter
    rwa [List.append_nil] at this
  have hrest : skipBlanks after = [] := skipBlanks_eq_nil_iff.mpr hafter
  rw [Document.read, String.toList_ofList, hvalue.isRead [] _ after hcs hstops, readFrom_end]
  exact if_pos hrest

/-- A text has one meaning at most. -/
theorem Means.unique {value : List Char} {d e : Document} (hd : Means .value value d)
    (he : Means .value value e) : d = e :=
  have hnone : IsBlanks [] := by decide
  Option.some.inj ((hd.read_eq hnone hnone).symm.trans (he.read_eq hnone hnone))

end LoanPricing.Json
