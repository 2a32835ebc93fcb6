import LoanPricing.Json.Scalar

/-!
# Records — objects or lists of the fields of a structure

A record is written as an object with a member for each field, in any order, or as a list of the
values of its fields, in theirs. In an object members with other keys are passed over and a second
member of a field is a fault. A field may be left out if the record can do without it; a list
leaves out fields at its end and holds nothing beyond them.
-/

namespace LoanPricing.Json

/-- A field of a record that is gathered in a draft `δ`. -/
structure Field (δ : Type) where
  name : String
  kind : Kind
  isSet : δ → Bool
  set : kind.Value → δ → δ

/-- How records `α` are read: their fields, the draft before the first field, and the record that
a draft gives, or else the name of a field that it lacks. -/
structure Shape (δ α : Type) where
  title : String
  fields : List (Field δ)
  start : δ
  finish : δ → Except String α

def Shape.wanted {δ α : Type} (shape : Shape δ α) : String :=
  "struct " ++ shape.title

def Shape.wantedElements {δ α : Type} (shape : Shape δ α) : String :=
  shape.wanted ++ " with " ++ String.ofList (Text.ofNat shape.fields.length) ++ " elements"

/-- The key of the next member and what follows its closing quote, or none and what follows the
closing brace. Before every member but the first there has to be a comma. -/
def nextKey (first : Bool) (cs : List Char) : Reading (Option String) :=
  match skipBlanks cs with
  | [] => .error (fault .endInObject [])
  | '}' :: rest => .ok (none, rest)
  | c :: rest =>
    if first then key (c :: rest)
    else if c = ',' then
      match skipBlanks rest with
      | [] => .error (fault .endInValue [])
      | '}' :: rest => .error (faultAhead .commaAtEnd ('}' :: rest))
      | rest => key rest
    else .error (faultAhead .noObjectComma (c :: rest))
where
  key : List Char → Reading (Option String)
    | '"' :: rest => (readStringTail rest).map fun (text, rest) => (some (String.ofList text), rest)
    | cs => .error (faultAhead .keyNotString cs)

/-- What follows the colon after a key. -/
def readColon (cs : List Char) : Except Fault (List Char) :=
  match skipBlanks cs with
  | [] => .error (fault .endInObject [])
  | ':' :: rest => .ok rest
  | rest => .error (faultAhead .noColon rest)

/-- Whether there is a further element, and what is left: the element, or what follows the closing
bracket. Before every element but the first there has to be a comma. -/
def nextElement (first : Bool) (cs : List Char) : Reading Bool :=
  match skipBlanks cs with
  | [] => .error (fault .endInList [])
  | ']' :: rest => .ok (false, rest)
  | c :: rest =>
    if first then .ok (true, c :: rest)
    else if c = ',' then
      match skipBlanks rest with
      | [] => .error (fault .endInValue [])
      | ']' :: rest => .error (faultAhead .commaAtEnd (']' :: rest))
      | rest => .ok (true, rest)
    else .error (faultAhead .noListComma (c :: rest))

/-- What follows the bracket that closes a list after its last element. -/
def closeList (cs : List Char) : Except Fault (List Char) :=
  match skipBlanks cs with
  | [] => .error (fault .endInList [])
  | ']' :: rest => .ok rest
  | ',' :: rest =>
    match skipBlanks rest with
    | ']' :: rest => .error (faultAhead .commaAtEnd (']' :: rest))
    | rest => .error (faultAhead .textAfterEnd rest)
  | rest => .error (faultAhead .textAfterEnd rest)

/-- The point where a repeated field is reported: after blanks and a closing brace. -/
def afterRepeated (cs : List Char) : List Char :=
  match skipBlanks cs with
  | '}' :: rest => rest
  | rest => rest

theorem nextKey_length {first : Bool} {cs rest : List Char} {key : Option String}
    (h : nextKey first cs = .ok (key, rest)) : rest.length < cs.length := by
  have hkey : ∀ {xs : List Char}, nextKey.key xs = .ok (key, rest) → rest.length < xs.length := by
    intro xs hx
    unfold nextKey.key at hx
    split at hx
    · rename_i tail
      cases ht : readStringTail tail with
      | error e => simp [ht, Except.map] at hx
      | ok p =>
        have := readStringTail_length (show readStringTail tail = .ok (p.1, p.2) from ht)
        simp only [ht, Except.map, Except.ok.injEq, Prod.mk.injEq] at hx
        simp only [List.length_cons, ← hx.2]
        omega
    · simp at hx
  unfold nextKey at h
  split at h
  · simp at h
  · rename_i heq
    simp only [Except.ok.injEq, Prod.mk.injEq] at h
    rw [← h.2]
    exact length_of_skipBlanks_cons heq
  · rename_i c tail _ heq
    have hle := length_of_skipBlanks_eq heq
    split at h
    · exact Nat.lt_of_lt_of_le (hkey h) hle
    · split at h
      · split at h
        · simp at h
        · simp at h
        · have h1 := hkey h
          have h2 := skipBlanks_length tail
          simp only [List.length_cons] at hle
          omega
      · simp at h

theorem readColon_length {cs rest : List Char} (h : readColon cs = .ok rest) :
    rest.length < cs.length := by
  unfold readColon at h
  split at h
  · simp at h
  · rename_i heq
    simp only [Except.ok.injEq] at h
    rw [← h]
    exact length_of_skipBlanks_cons heq
  · simp at h

theorem nextElement_length {first more : Bool} {cs rest : List Char}
    (h : nextElement first cs = .ok (more, rest)) : rest.length ≤ cs.length := by
  unfold nextElement at h
  split at h
  · simp at h
  · rename_i heq
    simp only [Except.ok.injEq, Prod.mk.injEq] at h
    have := length_of_skipBlanks_cons heq
    rw [← h.2]
    omega
  · rename_i c tail _ heq
    have hle := length_of_skipBlanks_eq heq
    split at h
    · simp only [Except.ok.injEq, Prod.mk.injEq] at h
      rw [← h.2]
      exact hle
    · split at h
      · split at h
        · simp at h
        · simp at h
        · simp only [Except.ok.injEq, Prod.mk.injEq] at h
          have h2 := skipBlanks_length tail
          simp only [List.length_cons] at hle
          rw [← h.2]
          omega
      · simp at h

theorem nextElement_end_length {first : Bool} {cs rest : List Char}
    (h : nextElement first cs = .ok (false, rest)) : rest.length < cs.length := by
  unfold nextElement at h
  split at h
  · simp at h
  · rename_i heq
    simp only [Except.ok.injEq, Prod.mk.injEq, true_and] at h
    rw [← h]
    exact length_of_skipBlanks_cons heq
  · split at h
    · simp at h
    · split at h
      · split at h <;> simp at h
      · simp at h

theorem closeList_length {cs rest : List Char} (h : closeList cs = .ok rest) :
    rest.length < cs.length := by
  unfold closeList at h
  split at h
  · simp at h
  · rename_i heq
    simp only [Except.ok.injEq] at h
    rw [← h]
    exact length_of_skipBlanks_cons heq
  · split at h <;> simp at h
  · simp at h

section Records

variable {δ α : Type}

/-- The draft after the members up to the closing brace, and what follows the brace. -/
def readMembers (fields : List (Field δ)) (first : Bool) (draft : δ) (cs : List Char) :
    Reading δ :=
  match _hk : nextKey first cs with
  | .error f => .error f
  | .ok (none, rest) => .ok (draft, rest)
  | .ok (some key, afterKey) =>
    match fields.find? fun field => field.name == key with
    | none =>
      match _hc : readColon afterKey with
      | .error f => .error f
      | .ok afterColon =>
        match _hv : skipValue afterColon with
        | .error f => .error f
        | .ok rest => readMembers fields false draft rest
    | some field =>
      if field.isSet draft then .error (fault (.repeatedField key) (afterRepeated afterKey))
      else
        match _hc : readColon afterKey with
        | .error f => .error f
        | .ok afterColon =>
          match _hv : readValue field.kind afterColon with
          | .error f => .error f
          | .ok (value, rest) => readMembers fields false (field.set value draft) rest
termination_by cs.length
decreasing_by
  · have h1 := nextKey_length _hk
    have h2 := readColon_length _hc
    have h3 := skipValue_length _hv
    omega
  · have h1 := nextKey_length _hk
    have h2 := readColon_length _hc
    have h3 := readValue_length _hv
    omega

/-- The draft after the elements up to the closing bracket, which stand for the given fields, and
what follows the bracket. -/
def readElements (first : Bool) : List (Field δ) → δ → List Char → Reading δ
  | [], draft, cs => (closeList cs).map fun rest => (draft, rest)
  | field :: fields, draft, cs =>
    match nextElement first cs with
    | .error f => .error f
    | .ok (false, rest) => .ok (draft, rest)
    | .ok (true, rest) =>
      match readValue field.kind rest with
      | .error f => .error f
      | .ok (value, rest) => readElements false fields (field.set value draft) rest

/-- A record, from the point where blanks may stand before it. -/
def Shape.read (shape : Shape δ α) (cs : List Char) : Reading α :=
  match skipBlanks cs with
  | '{' :: cs =>
    match readMembers shape.fields true shape.start cs with
    | .error f => .error f
    | .ok (draft, rest) =>
      match shape.finish draft with
      | .ok record => .ok (record, rest)
      | .error name => .error (fault (.missingField name) rest)
  | '[' :: cs =>
    match readElements true shape.fields shape.start cs with
    | .error f => .error f
    | .ok (draft, rest) =>
      match shape.finish draft with
      | .ok record => .ok (record, rest)
      | .error _ =>
        let length := (shape.fields.filter fun field => field.isSet draft).length
        .error (fault (.wrongLength length shape.wantedElements) rest)
  | cs => .error (wrongValue shape.wanted cs)

theorem readMembers_length {fields : List (Field δ)} {first : Bool} {draft result : δ}
    {cs rest : List Char} (h : readMembers fields first draft cs = .ok (result, rest)) :
    rest.length < cs.length := by
  fun_induction readMembers fields first draft cs with
  | case1 => simp at h
  | case2 _ _ _ _ hk =>
    simp only [Except.ok.injEq, Prod.mk.injEq] at h
    rw [← h.2]
    exact nextKey_length hk
  | case3 => simp at h
  | case4 => simp at h
  | case5 _ _ _ _ _ hk _ _ hc _ hv ih =>
    have h1 := nextKey_length hk
    have h2 := readColon_length hc
    have h3 := skipValue_length hv
    have h4 := ih h
    omega
  | case6 => simp at h
  | case7 => simp at h
  | case8 => simp at h
  | case9 _ _ _ _ _ hk _ _ _ _ hc _ _ hv ih =>
    have h1 := nextKey_length hk
    have h2 := readColon_length hc
    have h3 := readValue_length hv
    have h4 := ih h
    omega

theorem readElements_length {first : Bool} {fields : List (Field δ)} {draft result : δ}
    {cs rest : List Char} (h : readElements first fields draft cs = .ok (result, rest)) :
    rest.length < cs.length := by
  induction fields generalizing first draft cs with
  | nil =>
    unfold readElements at h
    cases hc : closeList cs with
    | error e => simp [hc, Except.map] at h
    | ok after =>
      simp only [hc, Except.map, Except.ok.injEq, Prod.mk.injEq] at h
      rw [← h.2]
      exact closeList_length hc
  | cons field fields ih =>
    unfold readElements at h
    split at h
    · simp at h
    · rename_i hn
      simp only [Except.ok.injEq, Prod.mk.injEq] at h
      rw [← h.2]
      exact nextElement_end_length hn
    · rename_i hn
      have h1 := nextElement_length hn
      split at h
      · simp at h
      · rename_i hv
        have h2 := readValue_length hv
        have h3 := ih h
        omega

-- A record takes at least one character.
theorem Shape.read_length {shape : Shape δ α} {cs rest : List Char} {record : α}
    (h : shape.read cs = .ok (record, rest)) : rest.length < cs.length := by
  unfold Shape.read at h
  split at h
  · rename_i heq
    have h1 := length_of_skipBlanks_cons heq
    split at h
    · simp at h
    · rename_i hm
      have h2 := readMembers_length hm
      split at h
      · simp only [Except.ok.injEq, Prod.mk.injEq] at h
        rw [← h.2]
        omega
      · simp at h
  · rename_i heq
    have h1 := length_of_skipBlanks_cons heq
    split at h
    · simp at h
    · rename_i hm
      have h2 := readElements_length hm
      split at h
      · simp only [Except.ok.injEq, Prod.mk.injEq] at h
        rw [← h.2]
        omega
      · simp at h
  · simp at h

/-- The records of a list up to its closing bracket, and what follows the bracket. -/
def Shape.readItems (shape : Shape δ α) (first : Bool) (cs : List Char) : Reading (List α) :=
  match _hn : nextElement first cs with
  | .error f => .error f
  | .ok (false, rest) => .ok ([], rest)
  | .ok (true, item) =>
    match _hr : shape.read item with
    | .error f => .error f
    | .ok (record, rest) =>
      (shape.readItems false rest).map fun (records, rest) => (record :: records, rest)
termination_by cs.length
decreasing_by
  have h1 := nextElement_length _hn
  have h2 := Shape.read_length _hr
  omega

/-- A list of records, from the point where blanks may stand before it. -/
def Shape.readList (shape : Shape δ α) (cs : List Char) : Reading (List α) :=
  match skipBlanks cs with
  | '[' :: cs => shape.readItems true cs
  | cs => .error (wrongValue "a sequence" cs)

end Records

/-- The value of a whole text, which may have blanks around it but nothing else. -/
def readWhole {α : Type} (read : List Char → Reading α) (text : List Char) : Except Error α :=
  match read text with
  | .error f => .error (f.locate text)
  | .ok (value, rest) =>
    match skipBlanks rest with
    | [] => .ok value
    | rest => .error ((faultAhead .textAfterEnd rest).locate text)

end LoanPricing.Json
