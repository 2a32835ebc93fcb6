import LoanPricing.Json.Skip

/-!
# Typed values — texts, numbers and flags

A field of a record wants a value of one kind. A value of another kind is read to its end, as far
as it has no brackets, so that the message can show it.
-/

namespace LoanPricing.Json

open Text (isDigit)

/-- The kinds of values that a field may want. -/
inductive Kind where
  | text
  | number
  | int32
  | flag
  deriving DecidableEq, Repr

abbrev Kind.Value : Kind → Type
  | .text => String
  | .number => Float
  | .int32 => Int32
  | .flag => Bool

def Kind.wanted : Kind → String
  | .text => "a string"
  | .number => "f64"
  | .int32 => "i32"
  | .flag => "a boolean"

def Number.found : Number → Found
  | .whole n => .integer n
  | .double x => .number x

/-- A number as a double. A whole number is converted directly. -/
def Number.toFloat : Number → Float
  | .whole n => if n < 0 then -significandToFloat n.natAbs else significandToFloat n.natAbs
  | .double x => x

/-- The fault of a value that is not of the wanted kind, from its first character. -/
def wrongValue (wanted : String) : List Char → Fault
  | [] => fault .endInValue []
  | 'n' :: cs => afterWord ['u', 'l', 'l'] .null cs
  | 't' :: cs => afterWord ['r', 'u', 'e'] (.flag true) cs
  | 'f' :: cs => afterWord ['a', 'l', 's', 'e'] (.flag false) cs
  | '"' :: cs =>
    match readStringTail cs with
    | .error f => f
    | .ok (text, rest) => fault (.wrongKind (.text (String.ofList text)) wanted) rest
  | '[' :: cs => fault (.wrongKind .list wanted) ('[' :: cs)
  | '{' :: cs => fault (.wrongKind .object wanted) ('{' :: cs)
  | c :: cs =>
    if c = '-' ∨ isDigit c then
      match readNumber (c :: cs) with
      | .error f => f
      | .ok (n, rest) => fault (.wrongKind n.found wanted) rest
    else faultAhead .noValue (c :: cs)
where
  /-- The fault of one of the words, from what follows its first letter. -/
  afterWord (word : List Char) (found : Found) (cs : List Char) : Fault :=
    match readWord word cs with
    | .error f => f
    | .ok rest => fault (.wrongKind found wanted) rest

def readText : List Char → Reading String
  | '"' :: cs => (readStringTail cs).map fun (text, rest) => (String.ofList text, rest)
  | cs => .error (wrongValue Kind.text.wanted cs)

def readFlag : List Char → Reading Bool
  | 't' :: cs => (readWord ['r', 'u', 'e'] cs).map fun rest => (true, rest)
  | 'f' :: cs => (readWord ['a', 'l', 's', 'e'] cs).map fun rest => (false, rest)
  | cs => .error (wrongValue Kind.flag.wanted cs)

def startsNumber : List Char → Bool
  | c :: _ => c == '-' || isDigit c
  | [] => false

/-- A number as a double, from its first character. -/
def readFloat (cs : List Char) : Reading Float :=
  if startsNumber cs then (readNumber cs).map fun (n, rest) => (n.toFloat, rest)
  else .error (wrongValue Kind.number.wanted cs)

/-- A whole number that fits 32 bits, from its first character. -/
def readInt32 (cs : List Char) : Reading Int32 :=
  if startsNumber cs then
    match readNumber cs with
    | .error f => .error f
    | .ok (.whole n, rest) =>
      if Int32.minValue.toInt ≤ n ∧ n ≤ Int32.maxValue.toInt then .ok (Int32.ofInt n, rest)
      else .error (fault (.outOfRange (.integer n) Kind.int32.wanted) rest)
    | .ok (.double x, rest) => .error (fault (.wrongKind (.number x) Kind.int32.wanted) rest)
  else .error (wrongValue Kind.int32.wanted cs)

/-- A value of the given kind, from the point where blanks may stand before it. -/
def readValue (kind : Kind) (cs : List Char) : Reading kind.Value :=
  match kind with
  | .text => readText (skipBlanks cs)
  | .number => readFloat (skipBlanks cs)
  | .int32 => readInt32 (skipBlanks cs)
  | .flag => readFlag (skipBlanks cs)

theorem readText_length {cs rest : List Char} {s : String} (h : readText cs = .ok (s, rest)) :
    rest.length < cs.length := by
  unfold readText at h
  split at h
  · obtain ⟨_, hx, _⟩ := length_of_map_ok h
    have := readStringTail_length hx
    simp only [List.length_cons]
    omega
  · simp at h

theorem readFlag_length {cs rest : List Char} {b : Bool} (h : readFlag cs = .ok (b, rest)) :
    rest.length < cs.length := by
  unfold readFlag at h
  split at h
  · rename_i cs'
    cases hw : readWord ['r', 'u', 'e'] cs' with
    | error e => simp [hw, Except.map] at h
    | ok after =>
      have := readWord_length hw
      simp only [hw, Except.map, Except.ok.injEq, Prod.mk.injEq] at h
      simp only [List.length_cons, ← h.2]
      omega
  · rename_i cs'
    cases hw : readWord ['a', 'l', 's', 'e'] cs' with
    | error e => simp [hw, Except.map] at h
    | ok after =>
      have := readWord_length hw
      simp only [hw, Except.map, Except.ok.injEq, Prod.mk.injEq] at h
      simp only [List.length_cons, ← h.2]
      omega
  · simp at h

theorem readFloat_length {cs rest : List Char} {x : Float} (h : readFloat cs = .ok (x, rest)) :
    rest.length < cs.length := by
  unfold readFloat at h
  split at h
  · obtain ⟨_, hx, _⟩ := length_of_map_ok h
    exact readNumber_length hx
  · simp at h

theorem readInt32_length {cs rest : List Char} {n : Int32} (h : readInt32 cs = .ok (n, rest)) :
    rest.length < cs.length := by
  unfold readInt32 at h
  split at h
  · split at h
    · simp at h
    · rename_i hx
      split at h
      · simp only [Except.ok.injEq, Prod.mk.injEq] at h
        rw [← h.2]
        exact readNumber_length hx
      · simp at h
    · simp at h
  · simp at h

-- A value takes at least one character.
theorem readValue_length {kind : Kind} {cs rest : List Char} {v : kind.Value}
    (h : readValue kind cs = .ok (v, rest)) : rest.length < cs.length := by
  have hb := skipBlanks_length cs
  cases kind with
  | text => exact Nat.lt_of_lt_of_le (readText_length h) hb
  | number => exact Nat.lt_of_lt_of_le (readFloat_length h) hb
  | int32 => exact Nat.lt_of_lt_of_le (readInt32_length h) hb
  | flag => exact Nat.lt_of_lt_of_le (readFlag_length h) hb

end LoanPricing.Json
