import LoanPricing.Toml.Text

/-!
# TOML documents — from a text to a table

A document is a list of statements, one a line: headers of tables, headers of tables in a list, and
assignments. Reading only decides what the statements are; whether they agree with each other is
found out when they are carried out in order.

The readers recurse under a bound on their steps. Every step but one between two characters takes
at least one character, so twice the length of the text is never reached.
-/

namespace LoanPricing.Toml

/-- A reader of one piece: the value and what follows it, or none if there is no such piece. -/
abbrev Reading (α : Type) := Option (α × List Char)

def skipSpaces (cs : List Char) : List Char :=
  cs.dropWhile isSpace

/-- What follows spaces, line breaks and comments; none if a comment is malformed. -/
def skipGap (inComment : Bool) : List Char → Option (List Char)
  | [] => some []
  | '\n' :: cs => skipGap false cs
  | '\r' :: '\n' :: cs => skipGap false cs
  | c :: cs =>
    if inComment then if isControl c then none else skipGap true cs
    else if isSpace c then skipGap false cs
    else if c = '#' then skipGap true cs
    else some (c :: cs)

/-- What follows the end of a line, before which only spaces and a comment may stand. -/
def endLine (inComment : Bool) : List Char → Option (List Char)
  | [] => some []
  | '\n' :: cs => some cs
  | '\r' :: '\n' :: cs => some cs
  | c :: cs =>
    if inComment then if isControl c then none else endLine true cs
    else if isSpace c then endLine false cs
    else if c = '#' then endLine true cs
    else none

def isKeyChar (c : Char) : Bool :=
  c.isAlphanum || c == '_' || c == '-'

def readKey : List Char → Reading String
  | '"' :: cs => (readBasic cs).map fun (text, rest) => (String.ofList text, rest)
  | '\'' :: cs => (readLiteral cs).map fun (text, rest) => (String.ofList text, rest)
  | cs =>
    let key := cs.takeWhile isKeyChar
    if key.isEmpty then none else some (String.ofList key, cs.dropWhile isKeyChar)

/-- How deep brackets may nest, and how many keys a dotted key may have. -/
def depthLimit : Nat := 80

/-- At most so many keys with dots between them: the path of all but the last, and the last. -/
def readKeys : Nat → List Char → Reading (List String × String)
  | 0, _ => none
  | count + 1, cs =>
    match readKey (skipSpaces cs) with
    | none => none
    | some (key, rest) =>
      match skipSpaces rest with
      | '.' :: rest => (readKeys count rest).map fun ((path, last), rest) => ((key :: path, last), rest)
      | rest => some (([], key), rest)

def readPath (cs : List Char) : Reading (List String × String) :=
  readKeys depthLimit cs

/-- What follows an equals sign between braces, where lines may end around it. The key before it is
passed on. -/
def readInlineSign {α : Type} : α × List Char → Reading α
  | (key, rest) =>
    match skipGap false rest with
    | some ('=' :: rest) => (skipGap false rest).map fun rest => (key, rest)
    | _ => none

mutual

/-- A value, nested in at most `depth` further brackets. -/
def readValue : Nat → Nat → List Char → Reading Value
  | 0, _, _ => none
  | steps + 1, depth, cs =>
    match cs, depth with
    | '[' :: _, 0 => none
    | '{' :: _, 0 => none
    | '[' :: cs, depth + 1 => (readItems steps depth cs).map fun (items, rest) => (.list items, rest)
    | '{' :: cs, depth + 1 =>
      (readPairs steps depth [] cs).map fun (members, rest) => (.table .inline members, rest)
    | '"' :: cs, _ => (readText ('"' :: cs)).map fun (s, rest) => (.text (String.ofList s), rest)
    | '\'' :: cs, _ => (readText ('\'' :: cs)).map fun (s, rest) => (.text (String.ofList s), rest)
    | cs, _ => readScalar cs

/-- The items of a list up to its closing bracket. -/
def readItems : Nat → Nat → List Char → Reading (List Value)
  | 0, _, _ => none
  | steps + 1, depth, cs =>
    match skipGap false cs with
    | some (']' :: rest) => some ([], rest)
    | some cs =>
      match readValue steps depth cs with
      | none => none
      | some (v, rest) =>
        match skipGap false rest with
        | some (',' :: rest) => (readItems steps depth rest).map fun (vs, rest) => (v :: vs, rest)
        | some (']' :: rest) => some ([v], rest)
        | _ => none
    | none => none

/-- The members of a table up to its closing brace, added to those before. -/
def readPairs : Nat → Nat → Members → List Char → Reading Members
  | 0, _, _, _ => none
  | steps + 1, depth, members, cs =>
    match skipGap false cs with
    | some ('}' :: rest) => some (members, rest)
    | some cs =>
      match (readPath cs).bind readInlineSign with
      | none => none
      | some ((path, key), rest) =>
        match readValue steps depth rest with
        | none => none
        | some (v, rest) =>
          match assign key v path members, skipGap false rest with
          | some members, some (',' :: rest) => readPairs steps depth members rest
          | some members, some ('}' :: rest) => some (members, rest)
          | _, _ => none
    | none => none

end

inductive Statement where
  | table (path : List String) (key : String)
  | tables (path : List String) (key : String)
  | assign (path : List String) (key : String) (v : Value)
  deriving Repr

/-- A statement without the end of its line. -/
def readStatement (steps : Nat) : List Char → Reading Statement
  | '[' :: '[' :: cs =>
    match readPath cs with
    | some ((path, key), ']' :: ']' :: rest) => some (.tables path key, rest)
    | _ => none
  | '[' :: cs =>
    match readPath cs with
    | some ((path, key), ']' :: rest) => some (.table path key, rest)
    | _ => none
  | cs =>
    match readPath cs with
    | some ((path, key), '=' :: rest) =>
      (readValue steps depthLimit (skipSpaces rest)).map fun (v, rest) =>
        (.assign path key v, rest)
    | _ => none

def readStatements : Nat → List Char → Option (List Statement)
  | 0, _ => none
  | steps + 1, cs =>
    match skipGap false cs with
    | none => none
    | some [] => some []
    | some cs =>
      match readStatement (steps + 1) cs with
      | none => none
      | some (statement, rest) =>
        match endLine false rest with
        | none => none
        | some rest => (readStatements steps rest).map (statement :: ·)

/-- The table after statements, the headers so far having led to the table at `place`. -/
def carryOut (place : List String) (members : Members) : List Statement → Option Members
  | [] => some members
  | .table path key :: rest =>
    match alter (openTable key) path members with
    | some members => carryOut (path ++ [key]) members rest
    | none => none
  | .tables path key :: rest =>
    match alter (appendTable key) path members with
    | some members => carryOut (path ++ [key]) members rest
    | none => none
  | .assign path key v :: rest =>
    match alter (assign key v path) place members with
    | some members => carryOut place members rest
    | none => none

/-- The table that a text describes; none if the text is malformed. A byte order mark in front does
not matter. -/
def parse (text : String) : Option Members :=
  let cs := match text.toList with
    | '\uFEFF' :: cs => cs
    | cs => cs
  match readStatements (2 * cs.length + 2) cs with
  | some statements => carryOut [] [] statements
  | none => none

end LoanPricing.Toml
