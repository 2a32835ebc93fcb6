import LoanPricing.Text.Ranges

/-!
# Sets of characters — what one character of a pattern may be

A set is built from ranges by the operations that the brackets of a pattern know. It is kept as it
is built, so two sets are the same only if they are built the same way.
-/

namespace LoanPricing.Pattern

inductive Characters where
  | among (rs : Text.Ranges)
  | union (a b : Characters)
  | intersection (a b : Characters)
  | difference (a b : Characters)
  /-- What is in one of two sets and not in the other. -/
  | either (a b : Characters)
  | complement (a : Characters)
  /-- What is in a set in one of the cases of the letters `A` to `Z`. -/
  | anyCase (a : Characters)
  deriving DecidableEq, Repr

/-- The letter of the other case, for the letters `A` to `Z`. -/
def otherCase (c : Char) : Char :=
  if c.isUpper then c.toLower else c.toUpper

namespace Characters

def none : Characters := among []

def only (c : Char) : Characters := among [(c.toNat, c.toNat)]

def contains : Characters → Char → Bool
  | among rs, c => rs.contains c
  | union a b, c => a.contains c || b.contains c
  | intersection a b, c => a.contains c && b.contains c
  | difference a b, c => a.contains c && !b.contains c
  | either a b, c => a.contains c != b.contains c
  | complement a, c => !a.contains c
  | anyCase a, c => a.contains c || a.contains (otherCase c)

@[simp] theorem contains_none (c : Char) : none.contains c = false := rfl

@[simp] theorem contains_only (c d : Char) : (only c).contains d = true ↔ d = c := by
  simp only [only, contains, Text.Ranges.contains_iff, List.mem_singleton, exists_eq_left]
  constructor
  · rintro ⟨h, h'⟩
    exact Char.toNat_inj.mp (by omega)
  · rintro rfl
    exact ⟨Nat.le_refl _, Nat.le_refl _⟩

@[simp] theorem contains_complement (a : Characters) (c : Char) :
    (complement a).contains c = !a.contains c := rfl

end Characters

def digits : Text.Ranges := [(0x30, 0x39)]

def spaces : Text.Ranges := [(0x09, 0x0D), (0x20, 0x20)]

/-- The characters of words: ASCII letters, digits and the underscore. -/
def wordCharacters : Text.Ranges := [(0x30, 0x39), (0x41, 0x5A), (0x5F, 0x5F), (0x61, 0x7A)]

def named : List (String × Text.Ranges) :=
  [("alnum", [(0x30, 0x39), (0x41, 0x5A), (0x61, 0x7A)]),
    ("alpha", [(0x41, 0x5A), (0x61, 0x7A)]),
    ("ascii", [(0x00, 0x7F)]),
    ("blank", [(0x09, 0x09), (0x20, 0x20)]),
    ("cntrl", [(0x00, 0x1F), (0x7F, 0x7F)]),
    ("digit", digits),
    ("graph", [(0x21, 0x7E)]),
    ("lower", [(0x61, 0x7A)]),
    ("print", [(0x20, 0x7E)]),
    ("punct", [(0x21, 0x2F), (0x3A, 0x40), (0x5B, 0x60), (0x7B, 0x7E)]),
    ("space", spaces),
    ("upper", [(0x41, 0x5A)]),
    ("word", wordCharacters),
    ("xdigit", [(0x30, 0x39), (0x41, 0x46), (0x61, 0x66)])]

end LoanPricing.Pattern
