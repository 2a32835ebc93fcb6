import LoanPricing.Toml.Moment

/-!
# TOML values — what a configuration file says

A table remembers how it came about, because that decides what may still be added to it.
-/

namespace LoanPricing.Toml

/-- How a table came about. -/
inductive Mark where
  /-- On the way to a table with a header of its own. -/
  | implied
  /-- On the way to a dotted key. -/
  | dotted
  /-- By a header. -/
  | header
  /-- Between braces. -/
  | inline
  deriving DecidableEq, Repr

inductive Value where
  | text (s : String)
  | int (n : Int)
  | number (x : Float)
  | flag (b : Bool)
  | moment (m : Moment)
  | list (items : List Value)
  | table (mark : Mark) (members : List (String × Value))
  /-- Tables with one header each. -/
  | tables (items : List (List (String × Value)))
  deriving Repr

/-- The members of a table, in the order in which they were added. -/
abbrev Members := List (String × Value)

/-- The members with the value of a key replaced. -/
def replaceMember (key : String) (v : Value) (members : Members) : Members :=
  members.map fun m => if m.1 == key then (key, v) else m

/-- The members with one for a new key. -/
def addMember? (key : String) (v : Value) (members : Members) : Option Members :=
  if (members.lookup key).isSome then none else some (members ++ [(key, v)])

/-- The members with a value put at the end of a path of dotted keys. Tables on the way are without
a header of their own, and from then on cannot get one. The last of the tables in a list may be on
the way, but not be the innermost one. -/
def assign (key : String) (v : Value) : List String → Members → Option Members
  | [], members => addMember? key v members
  | name :: path, members =>
    match members.lookup name with
    | none =>
      (assign key v path []).map fun inner => members ++ [(name, .table .dotted inner)]
    | some (.table .dotted inner) =>
      (assign key v path inner).map fun inner => replaceMember name (.table .dotted inner) members
    | some (.table .implied inner) =>
      (assign key v path inner).map fun inner => replaceMember name (.table .dotted inner) members
    | some (.tables items) =>
      match path.isEmpty, items.getLast? with
      | false, some inner =>
        (assign key v path inner).map fun inner =>
          replaceMember name (.tables (items.dropLast ++ [inner])) members
      | _, _ => none
    | _ => none

/-- The members with a change of the table at the end of a path of headers. Missing tables on the
way are implied. -/
def alter (change : Members → Option Members) : List String → Members → Option Members
  | [], members => change members
  | name :: path, members =>
    match members.lookup name with
    | none => (alter change path []).map fun inner => members ++ [(name, .table .implied inner)]
    | some (.table .inline _) => none
    | some (.table mark inner) =>
      (alter change path inner).map fun inner => replaceMember name (.table mark inner) members
    | some (.tables items) =>
      match items.getLast? with
      | none => none
      | some inner =>
        (alter change path inner).map fun inner =>
          replaceMember name (.tables (items.dropLast ++ [inner])) members
    | _ => none

/-- The members with a table for a header. A table has one header at most. -/
def openTable (key : String) (members : Members) : Option Members :=
  match members.lookup key with
  | none => some (members ++ [(key, .table .header [])])
  | some (.table .implied inner) => some (replaceMember key (.table .header inner) members)
  | _ => none

/-- The members with one more table in a list of tables. -/
def appendTable (key : String) (members : Members) : Option Members :=
  match members.lookup key with
  | none => some (members ++ [(key, .tables [[]])])
  | some (.tables items) => some (replaceMember key (.tables (items ++ [[]])) members)
  | _ => none

@[simp] theorem alter_nil (change : Members → Option Members) (members : Members) :
    alter change [] members = change members := rfl

end LoanPricing.Toml
