import LoanPricing.Decimal.Layout

/-!
# JSON values — and their texts

A value is written in one line without blanks, or spread over lines with two more spaces of
indentation for every level. Strings are escaped only where they have to be. A number that is not
finite has no JSON text and is written as `null`.
-/

namespace LoanPricing.Json

/-- A JSON value. The members of an object keep their order. -/
inductive Value where
  | null
  | flag (b : Bool)
  | int (n : Int)
  | number (x : Float)
  | text (s : String)
  | list (items : List Value)
  | object (members : List (String × Value))
  deriving Repr

def Value.nat (n : Nat) : Value :=
  .int n

/-- The text of a character inside a string. Only quotes, backslashes and controls below U+0020
are escaped. -/
def escape (c : Char) : List Char :=
  if c = '"' then ['\\', '"']
  else if c = '\\' then ['\\', '\\']
  else if c = '\x08' then ['\\', 'b']
  else if c = '\x0C' then ['\\', 'f']
  else if c = '\n' then ['\\', 'n']
  else if c = '\r' then ['\\', 'r']
  else if c = '\t' then ['\\', 't']
  else if c.toNat < 0x20 then
    ['\\', 'u', '0', '0', Nat.digitChar (c.toNat / 16), Nat.digitChar (c.toNat % 16)]
  else [c]

def writeString (s : String) : List Char :=
  '"' :: s.toList.flatMap escape ++ ['"']

def writeNumber (x : Float) : List Char :=
  if x.isFinite then Decimal.json x else ['n', 'u', 'l', 'l']

def writeFlag (b : Bool) : List Char :=
  if b then ['t', 'r', 'u', 'e'] else ['f', 'a', 'l', 's', 'e']

mutual

/-- The text of a value in one line. -/
def Value.write : Value → List Char
  | .null => ['n', 'u', 'l', 'l']
  | .flag b => writeFlag b
  | .int n => Text.ofInt n
  | .number x => writeNumber x
  | .text s => writeString s
  | .list items => '[' :: writeItems items ++ [']']
  | .object members => '{' :: writeMembers members ++ ['}']

def writeItems : List Value → List Char
  | [] => []
  | [v] => v.write
  | v :: vs => v.write ++ ',' :: writeItems vs

def writeMembers : List (String × Value) → List Char
  | [] => []
  | [(key, v)] => writeString key ++ ':' :: v.write
  | (key, v) :: ms => writeString key ++ ':' :: (v.write ++ ',' :: writeMembers ms)

end

/-- A line break and the indentation of a level. -/
def breakLine (level : Nat) : List Char :=
  '\n' :: List.replicate (2 * level) ' '

mutual

/-- The text of a value spread over lines, whose own line is indented by `level`. -/
def Value.spread (level : Nat) : Value → List Char
  | .list [] => ['[', ']']
  | .list items => '[' :: spreadItems (level + 1) items ++ breakLine level ++ [']']
  | .object [] => ['{', '}']
  | .object members => '{' :: spreadMembers (level + 1) members ++ breakLine level ++ ['}']
  | .null => ['n', 'u', 'l', 'l']
  | .flag b => writeFlag b
  | .int n => Text.ofInt n
  | .number x => writeNumber x
  | .text s => writeString s

def spreadItems (level : Nat) : List Value → List Char
  | [] => []
  | [v] => breakLine level ++ v.spread level
  | v :: vs => breakLine level ++ v.spread level ++ ',' :: spreadItems level vs

def spreadMembers (level : Nat) : List (String × Value) → List Char
  | [] => []
  | [(key, v)] => breakLine level ++ writeString key ++ ':' :: ' ' :: v.spread level
  | (key, v) :: ms =>
    breakLine level ++ writeString key ++ ':' :: ' ' :: (v.spread level ++
      ',' :: spreadMembers level ms)

end

/-- Members with one more, put before the first one with a greater key. -/
def insertMember (key : String) (v : Value) : List (String × Value) → List (String × Value)
  | [] => [(key, v)]
  | m :: ms => if key < m.1 then (key, v) :: m :: ms else m :: insertMember key v ms

mutual

/-- The value with the members of every object in the order of their keys. -/
def Value.sorted : Value → Value
  | .list items => .list (sortedItems items)
  | .object members => .object (sortedMembers members)
  | v => v

def sortedItems : List Value → List Value
  | [] => []
  | v :: vs => v.sorted :: sortedItems vs

/-- The members of an object in the order of their keys, their values sorted. -/
def sortedMembers : List (String × Value) → List (String × Value)
  | [] => []
  | (key, v) :: ms => insertMember key v.sorted (sortedMembers ms)

end

def Value.line (v : Value) : String :=
  String.ofList v.write

/-- The text of a value spread over lines, its members sorted. -/
def Value.pretty (v : Value) : String :=
  String.ofList (v.sorted.spread 0)

end LoanPricing.Json
