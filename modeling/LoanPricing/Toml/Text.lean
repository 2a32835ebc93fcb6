import LoanPricing.Toml.Scalar

/-!
# TOML strings — quoted texts on one line or several

A string between double quotes has escapes, one between single quotes has none. Between three
quotes a string may run over several lines: a line break right after the opening quotes is dropped,
a backslash at the end of a line drops everything up to the next character that is not blank, and
one or two quotes before the closing ones belong to the string.
-/

namespace LoanPricing.Toml

/-- What a reader of strings finds: the text, and what follows the closing quotes. -/
abbrev TextReading := Option (List Char × List Char)

/-- The text with one more character in front. -/
def TextReading.prepend (c : Char) (r : TextReading) : TextReading :=
  r.map fun (text, rest) => (c :: text, rest)

/-- Whether a character may not stand for itself in a line. -/
def isControl (c : Char) : Bool :=
  (c.toNat < 0x20 && c != '\t') || c.toNat == 0x7F

def isSpace (c : Char) : Bool :=
  c == ' ' || c == '\t'

def codedChar? (digits : List Char) : Option Char :=
  match Text.natOn? 16 Text.hexDigit? 0 digits with
  | some n => if n.isValidChar then some (Char.ofNat n) else none
  | none => none

def shortEscape? : Char → Option Char
  | 'b' => some '\x08'
  | 't' => some '\t'
  | 'n' => some '\n'
  | 'f' => some '\x0C'
  | 'r' => some '\r'
  | 'e' => some '\x1B'
  | '"' => some '"'
  | '\\' => some '\\'
  | _ => none

/-- The text of an escaped character followed by the rest of a string. -/
def escaped (c : Option Char) (r : TextReading) : TextReading :=
  match c with
  | some c => r.prepend c
  | none => none

/-- A string between double quotes, from what follows the opening one. -/
def readBasic : List Char → TextReading
  | [] => none
  | '"' :: cs => some ([], cs)
  | '\\' :: 'x' :: a :: b :: cs => escaped (codedChar? [a, b]) (readBasic cs)
  | '\\' :: 'u' :: a :: b :: c :: d :: cs => escaped (codedChar? [a, b, c, d]) (readBasic cs)
  | '\\' :: 'U' :: a :: b :: c :: d :: e :: f :: g :: h :: cs =>
    escaped (codedChar? [a, b, c, d, e, f, g, h]) (readBasic cs)
  | '\\' :: c :: cs => escaped (shortEscape? c) (readBasic cs)
  | c :: cs => if isControl c ∨ c = '\\' then none else (readBasic cs).prepend c

/-- A string between single quotes, from what follows the opening one. -/
def readLiteral : List Char → TextReading
  | [] => none
  | '\'' :: cs => some ([], cs)
  | c :: cs => if isControl c then none else (readLiteral cs).prepend c

/-- Whether only blanks are left of the line. -/
def atLineEnd (cs : List Char) : Bool :=
  match cs.dropWhile isSpace with
  | '\n' :: _ => true
  | '\r' :: '\n' :: _ => true
  | _ => false

/-- A string between three double quotes, from a point inside it. While `dropping`, blanks and line
breaks are dropped. -/
def readBasicLines (dropping : Bool) : List Char → TextReading
  | [] => none
  | '"' :: '"' :: '"' :: '"' :: '"' :: cs => some (['"', '"'], cs)
  | '"' :: '"' :: '"' :: '"' :: cs => some (['"'], cs)
  | '"' :: '"' :: '"' :: cs => some ([], cs)
  | '\r' :: '\n' :: cs =>
    if dropping then readBasicLines true cs
    else ((readBasicLines false cs).prepend '\n').prepend '\r'
  | '\n' :: cs =>
    if dropping then readBasicLines true cs else (readBasicLines false cs).prepend '\n'
  | '\\' :: 'x' :: a :: b :: cs => escaped (codedChar? [a, b]) (readBasicLines false cs)
  | '\\' :: 'u' :: a :: b :: c :: d :: cs =>
    escaped (codedChar? [a, b, c, d]) (readBasicLines false cs)
  | '\\' :: 'U' :: a :: b :: c :: d :: e :: f :: g :: h :: cs =>
    escaped (codedChar? [a, b, c, d, e, f, g, h]) (readBasicLines false cs)
  | '\\' :: c :: cs =>
    if atLineEnd (c :: cs) then readBasicLines true (c :: cs)
    else escaped (shortEscape? c) (readBasicLines false cs)
  | c :: cs =>
    if isControl c ∨ c = '\\' then none
    else if dropping ∧ isSpace c then readBasicLines true cs
    else (readBasicLines false cs).prepend c

/-- A string between three single quotes, from a point inside it. -/
def readLiteralLines : List Char → TextReading
  | [] => none
  | '\'' :: '\'' :: '\'' :: '\'' :: '\'' :: cs => some (['\'', '\''], cs)
  | '\'' :: '\'' :: '\'' :: '\'' :: cs => some (['\''], cs)
  | '\'' :: '\'' :: '\'' :: cs => some ([], cs)
  | '\r' :: '\n' :: cs => ((readLiteralLines cs).prepend '\n').prepend '\r'
  | '\n' :: cs => (readLiteralLines cs).prepend '\n'
  | c :: cs => if isControl c then none else (readLiteralLines cs).prepend c

/-- What follows a line break at the front. -/
def dropFirstBreak : List Char → List Char
  | '\n' :: cs => cs
  | '\r' :: '\n' :: cs => cs
  | cs => cs

/-- A string of any of the four kinds, from its opening quote. -/
def readText : List Char → TextReading
  | '"' :: '"' :: '"' :: cs => readBasicLines false (dropFirstBreak cs)
  | '"' :: cs => readBasic cs
  | '\'' :: '\'' :: '\'' :: cs => readLiteralLines (dropFirstBreak cs)
  | '\'' :: cs => readLiteral cs
  | _ => none

end LoanPricing.Toml
