/-!
# UTF-8 — bytes read as characters, with or without tolerance

The reader is a machine that takes one byte at a time. Between two characters it is `ready`;
inside a character it knows how many bytes are still to come and which range the next one has
to be in. A byte outside that range ends the broken character, which counts as one malformed
piece, and is then read as the start of the next one. So a byte below `0x80`, a line feed for
instance, always leaves the machine `ready`.
-/

namespace LoanPricing.Text.Utf8

/-- Where the reader stands between two bytes. -/
inductive State where
  /-- Between characters. -/
  | ready
  /-- Inside a character whose bits so far are `bits`: the next byte has to lie between `low` and
  `high`, and `more` further bytes follow it. -/
  | inside (more : Nat) (low high : UInt8) (bits : Nat)
  deriving DecidableEq, Repr

/-- What a byte completes: a character, or a malformed piece (`none`). -/
abbrev Piece := Option Char

/-- The first byte of a character: one of `00`–`7F` alone, or one that announces one, two or three
more bytes; any other byte is a malformed piece by itself. The narrower ranges after `E0`, `ED`,
`F0` and `F4` leave out overlong forms, surrogates and numbers above `10FFFF`. -/
def start (b : UInt8) : List Piece × State :=
  let n := b.toNat
  if n < 0x80 then ([some (Char.ofNat n)], .ready)
  else if n < 0xC2 then ([none], .ready)
  else if n < 0xE0 then ([], .inside 0 0x80 0xBF (n % 0x20))
  else if n = 0xE0 then ([], .inside 1 0xA0 0xBF 0)
  else if n = 0xED then ([], .inside 1 0x80 0x9F 0x0D)
  else if n < 0xF0 then ([], .inside 1 0x80 0xBF (n % 0x10))
  else if n = 0xF0 then ([], .inside 2 0x90 0xBF 0)
  else if n < 0xF4 then ([], .inside 2 0x80 0xBF (n % 0x08))
  else if n = 0xF4 then ([], .inside 2 0x80 0x8F 4)
  else ([none], .ready)

/-- One byte: the pieces that it completes, and the state after it. -/
def step : State → UInt8 → List Piece × State
  | .ready, b => start b
  | .inside more low high bits, b =>
    if low ≤ b ∧ b ≤ high then
      let bits := bits * 0x40 + b.toNat % 0x40
      match more with
      | 0 => ([some (Char.ofNat bits)], .ready)
      | more + 1 => ([], .inside more 0x80 0xBF bits)
    else
      let (pieces, next) := start b
      (none :: pieces, next)

/-- The pieces of a byte sequence that starts in the given state; an unfinished character at the
end is a malformed piece. -/
def piecesFrom : State → List UInt8 → List Piece
  | .ready, [] => []
  | .inside .., [] => [none]
  | state, b :: rest =>
    let (pieces, next) := step state b
    pieces ++ piecesFrom next rest

/-- The characters and malformed pieces of a byte sequence, in order. -/
def pieces (bytes : List UInt8) : List Piece :=
  piecesFrom .ready bytes

/-- The characters of a byte sequence, U+FFFD standing for each malformed piece. -/
def decodeLossy (bytes : List UInt8) : List Char :=
  (pieces bytes).map fun piece => piece.getD '\uFFFD'

/-- The characters of a byte sequence that is well-formed UTF-8, none otherwise. -/
def decode? (bytes : List UInt8) : Option (List Char) :=
  (pieces bytes).mapM id

def encode (s : String) : List UInt8 :=
  s.toUTF8.toList

@[simp] theorem pieces_nil : pieces [] = [] := rfl

-- A byte below `0x80` is a character of its own.
theorem start_of_lt {b : UInt8} (h : b.toNat < 0x80) :
    start b = ([some (Char.ofNat b.toNat)], .ready) := by
  simp [start, h]

end LoanPricing.Text.Utf8
