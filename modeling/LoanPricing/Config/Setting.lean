import LoanPricing.Toml.Document

/-!
# Settings — values with the place they come from

Every layer of a configuration is a table of settings. A setting remembers its *origin*, the file
or the environment, so that a message can name it; a table that came together from several layers
has none.
-/

namespace LoanPricing.Config

inductive Scalar where
  | text (s : String)
  | int (n : Int)
  | number (x : Float)
  | flag (b : Bool)
  deriving DecidableEq, Repr

inductive Setting where
  /-- Nothing was set. -/
  | empty
  | scalar (origin : Option String) (value : Scalar)
  | list (origin : Option String) (items : List Setting)
  | table (origin : Option String) (members : List (String × Setting))
  deriving Repr

namespace Setting

/-- The items of a list; a setting of another kind has none. -/
def items : Setting → List Setting
  | list _ items => items
  | _ => []

/-- The members of a table; a setting of another kind has none. -/
def members : Setting → List (String × Setting)
  | table _ members => members
  | _ => []

/-- Members with a change of the setting under a key, which is empty if it is not there. -/
def alterMember (change : Setting → Setting) (key : String) :
    List (String × Setting) → List (String × Setting)
  | [] => [(key, change empty)]
  | (k, v) :: rest => if k = key then (k, change v) :: rest else (k, v) :: alterMember change key rest

/-- A table with a change of the setting under a key. A setting of another kind is replaced by a
table. -/
def alterKey (change : Setting → Setting) (key : String) : Setting → Setting
  | table origin members => table origin (alterMember change key members)
  | _ => table none (alterMember change key [])

/-- A list with a change of the item at an index. Negative indices count from the end; items that
are missing on either side are empty. A setting of another kind is replaced by a list. -/
def alterIndex (change : Setting → Setting) (index : Int) (setting : Setting) : Setting :=
  let origin := match setting with
    | list origin _ => origin
    | _ => none
  let items := setting.items
  let before := ((-index).toNat - items.length)
  let items := List.replicate before empty ++ items
  let position := if index < 0 then items.length - (-index).toNat else index.toNat
  let items := items ++ List.replicate (position + 1 - items.length) empty
  list origin (items.modify position change)

mutual

/-- A setting put in the place of another. A table is merged into the table that is there; anything
else replaces what is there. -/
def put (incoming : Setting) (target : Setting) : Setting :=
  match incoming with
  | table _ members =>
    match target with
    | table origin old => table origin (putMembers members old)
    | _ => table none (putMembers members [])
  | other => other

/-- Members merged into others, one after another. -/
def putMembers (incoming : List (String × Setting)) (target : List (String × Setting)) :
    List (String × Setting) :=
  match incoming with
  | [] => target
  | (key, v) :: rest => putMembers rest (alterMember (fun old => put v old) key target)

end

mutual

/-- The setting of a value in a file. Moments are texts. -/
def ofToml (origin : String) : Toml.Value → Setting
  | .text s => scalar (some origin) (.text s)
  | .int n => scalar (some origin) (.int n)
  | .number x => scalar (some origin) (.number x)
  | .flag b => scalar (some origin) (.flag b)
  | .moment m => scalar (some origin) (.text (String.ofList m.shown))
  | .list items => list (some origin) (ofTomlItems origin items)
  | .table _ members => table (some origin) (ofTomlMembers origin members)
  | .tables items => list (some origin) (ofTomlTables origin items)

def ofTomlItems (origin : String) : List Toml.Value → List Setting
  | [] => []
  | v :: vs => ofToml origin v :: ofTomlItems origin vs

def ofTomlMembers (origin : String) : List (String × Toml.Value) → List (String × Setting)
  | [] => []
  | (key, v) :: rest => (key, ofToml origin v) :: ofTomlMembers origin rest

def ofTomlTables (origin : String) : List (List (String × Toml.Value)) → List Setting
  | [] => []
  | members :: rest => table (some origin) (ofTomlMembers origin members) :: ofTomlTables origin rest

end

end Setting

end LoanPricing.Config
