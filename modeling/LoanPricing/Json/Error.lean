import LoanPricing.Decimal.Layout
import LoanPricing.Text.Quoted

/-!
# JSON errors — what is wrong with a text, and where

A reader that gives up reports a *cause* and how many bytes of the text it had not read. The place
in the text follows from that count: lines are counted from one, columns in bytes from the last
line feed.
-/

namespace LoanPricing.Json

inductive Found where
  | null
  | flag (b : Bool)
  | integer (n : Int)
  | number (x : Float)
  | text (s : String)
  | list
  | object
  deriving DecidableEq, Repr

inductive Cause where
  | endInValue
  | endInString
  | endInList
  | endInObject
  | noColon
  | noListComma
  | noObjectComma
  | badWord
  | noValue
  | badEscape
  | badNumber
  | numberTooLarge
  | controlInString
  | keyNotString
  /-- A low surrogate without a high one before it, or a high one without a low one after it. -/
  | loneSurrogate
  /-- A high surrogate with no escape after it. -/
  | openSurrogate
  | commaAtEnd
  | textAfterEnd
  | wrongKind (found : Found) (wanted : String)
  | outOfRange (found : Found) (wanted : String)
  | wrongLength (length : Nat) (wanted : String)
  | missingField (name : String)
  | repeatedField (name : String)
  deriving DecidableEq, Repr

/-- A failed reading: the cause, and the number of bytes not read. -/
structure Fault where
  cause : Cause
  unread : Nat
  deriving DecidableEq, Repr

structure Error where
  cause : Cause
  line : Nat
  column : Nat
  deriving DecidableEq, Repr

def byteCount : List Char → Nat
  | [] => 0
  | c :: cs => c.utf8Size + byteCount cs

/-- A fault at the point before `rest`. -/
def fault (cause : Cause) (rest : List Char) : Fault :=
  { cause, unread := byteCount rest }

/-- A fault in the next byte of `rest`, which counts as read if there is one. -/
def faultAhead (cause : Cause) (rest : List Char) : Fault :=
  { cause, unread := byteCount rest - 1 }

/-- Line and column after the first `offset` bytes of a text, going on from `line` and `column`. -/
def placeFrom (line column : Nat) : List Char → Nat → Nat × Nat
  | [], _ => (line, column)
  | c :: cs, offset =>
    if offset = 0 then (line, column)
    else if c = '\n' then placeFrom (line + 1) 0 cs (offset - 1)
    else if offset < c.utf8Size then (line, column + offset)
    else placeFrom line (column + c.utf8Size) cs (offset - c.utf8Size)

def Fault.locate (text : List Char) (f : Fault) : Error :=
  let (line, column) := placeFrom 1 0 text (byteCount text - f.unread)
  { cause := f.cause, line, column }

def Found.message : Found → String
  | .null => "null"
  | .flag true => "boolean `true`"
  | .flag false => "boolean `false`"
  | .integer n => "integer `" ++ String.ofList (Text.ofInt n) ++ "`"
  | .number x => "floating point `" ++ String.ofList (Decimal.json x) ++ "`"
  | .text s => "string " ++ String.ofList (Text.quoted s.toList)
  | .list => "sequence"
  | .object => "map"

def Cause.message : Cause → String
  | .endInValue => "EOF while parsing a value"
  | .endInString => "EOF while parsing a string"
  | .endInList => "EOF while parsing a list"
  | .endInObject => "EOF while parsing an object"
  | .noColon => "expected `:`"
  | .noListComma => "expected `,` or `]`"
  | .noObjectComma => "expected `,` or `\x7d`"
  | .badWord => "expected ident"
  | .noValue => "expected value"
  | .badEscape => "invalid escape"
  | .badNumber => "invalid number"
  | .numberTooLarge => "number out of range"
  | .controlInString => "control character (\\u0000-\\u001F) found while parsing a string"
  | .keyNotString => "key must be a string"
  | .loneSurrogate => "lone leading surrogate in hex escape"
  | .openSurrogate => "unexpected end of hex escape"
  | .commaAtEnd => "trailing comma"
  | .textAfterEnd => "trailing characters"
  | .wrongKind found wanted => "invalid type: " ++ found.message ++ ", expected " ++ wanted
  | .outOfRange found wanted => "invalid value: " ++ found.message ++ ", expected " ++ wanted
  | .wrongLength n wanted =>
    "invalid length " ++ String.ofList (Text.ofNat n) ++ ", expected " ++ wanted
  | .missingField name => "missing field `" ++ name ++ "`"
  | .repeatedField name => "duplicate field `" ++ name ++ "`"

def Error.message (e : Error) : String :=
  e.cause.message ++ " at line " ++ String.ofList (Text.ofNat e.line) ++ " column " ++
    String.ofList (Text.ofNat e.column)

@[simp] theorem byteCount_nil : byteCount [] = 0 := rfl

@[simp] theorem byteCount_append (xs ys : List Char) :
    byteCount (xs ++ ys) = byteCount xs + byteCount ys := by
  induction xs with
  | nil => exact (Nat.zero_add _).symm
  | cons c xs ih =>
    rw [List.cons_append, byteCount, byteCount, ih, Nat.add_assoc]

end LoanPricing.Json
