import LoanPricing.Config.Path
import LoanPricing.Files
import LoanPricing.Text.Lowercase

/-!
# Layers — defaults, two files and the environment

A configuration is put together from four layers, each overriding those before it:

* the name of the environment, `development` unless the variable `PRICING_ENV` gives another;
* the file `default.toml` in the configuration directory;
* the file there that is named for the environment;
* the variables whose names begin with `pricing_` in any case.

A file that is not there, or cannot be read, is an empty layer. A file that is no TOML document is
an error.
-/

namespace LoanPricing.Config

/-- The variables of the environment of a process. -/
abbrev Variables := List (String × String)

def environmentOrigin : String := "the environment"

def variablePrefix : List Char := "pricing_".toList

/-- A text with every `__` replaced by a dot. -/
def dotted : List Char → List Char
  | '_' :: '_' :: cs => '.' :: dotted cs
  | c :: cs => c :: dotted cs
  | [] => []

/-- The key that the name of a variable stands for, if it is the name of a setting. -/
def keyOfVariable (name : String) : Option String :=
  let cs := name.toList
  if (cs.take variablePrefix.length).map Char.toLower = variablePrefix then
    some (String.ofList (Text.small (dotted (cs.drop variablePrefix.length))))
  else none

/-- The value of a variable: a flag, a number or a text. -/
def scalarOfVariable (value : String) : Scalar :=
  let cs := value.toList
  let small := Text.small cs
  if small = ['t', 'r', 'u', 'e'] then .flag true
  else if small = ['f', 'a', 'l', 's', 'e'] then .flag false
  else
    match Text.int64? cs with
    | some n => .int n
    | none =>
      match Decimal.float? cs with
      | some x => .number x
      | none => .text value

def variableLayer (env : Variables) : List (String × Setting) :=
  env.filterMap fun (name, value) =>
    (keyOfVariable name).map fun key =>
      (key, .scalar (some environmentOrigin) (scalarOfVariable value))

def environmentName (env : Variables) : String :=
  (env.lookup "PRICING_ENV").getD "development"

/-- The path of a file in a directory. A path from the root stays as it is. -/
def join (dir name : String) : String :=
  if name.startsWith "/" || dir == "" then name
  else if dir.endsWith "/" then dir ++ name
  else dir ++ "/" ++ name

/-- The configuration files of a directory, in the order in which they are read. -/
def fileNames (dir : String) (env : Variables) : List String :=
  [join dir "default.toml", join dir (environmentName env ++ ".toml")]

/-- The path of a file as messages show it: without names that lead nowhere. -/
def shownPath (path : String) : String :=
  String.intercalate "/" ((Tree.names path).filter fun name => !Tree.isIdle name)

/-- Whether the last name of a path is more than the ending `.toml`. -/
def hasEnding (path : String) : Bool :=
  (Tree.names path).getLast? != some ".toml"

/-- The bytes of a configuration file with the path under which they are found: the path itself, or
else the path with one more ending. A file whose name is an ending alone is of no known format.

The format is TOML throughout. Files that could be found with the ending of another format, `json`,
`json5`, `yaml`, `yml`, `ini` or `ron`, are left out here: they count as missing. -/
def findFile (disk : Disk) (path : String) : Option (String × List UInt8) :=
  match disk path with
  | .ok bytes => if hasEnding path then some (shownPath path, bytes) else none
  | .error _ =>
    match disk (path ++ ".toml") with
    | .ok bytes => some (shownPath (path ++ ".toml"), bytes)
    | .error _ => none

/-- Bytes without the mark of UTF-8 at their front. -/
def dropMark : List UInt8 → List UInt8
  | 0xEF :: 0xBB :: 0xBF :: bytes => bytes
  | bytes => bytes

/-- The layer of a file, or the path of the file if it is malformed. -/
def fileLayer (disk : Disk) (path : String) : Except String (List (String × Setting)) :=
  match findFile disk path with
  | none => .ok []
  | some (found, bytes) =>
    match Toml.parse (String.ofList (Text.Utf8.decodeLossy (dropMark bytes))) with
    | none => .error found
    | some members => .ok (Setting.ofTomlMembers found members)

def defaultLayer (env : Variables) : List (String × Setting) :=
  [("environment", .scalar none (.text (environmentName env)))]

/-- The settings after the layers of files, or the path of the first malformed file. -/
def addFiles (disk : Disk) (settings : Setting) : List String → Except String Setting
  | [] => .ok settings
  | path :: paths =>
    match fileLayer disk path with
    | .error path => .error path
    | .ok layer => addFiles disk (addLayer settings layer) paths

/-- The settings of all layers, or the path of the first malformed file. -/
def gather (disk : Disk) (dir : String) (env : Variables) : Except String Setting :=
  let settings := addLayer (.table none []) (defaultLayer env)
  match addFiles disk settings (fileNames dir env) with
  | .error path => .error path
  | .ok settings => .ok (addLayer settings (variableLayer env))

end LoanPricing.Config
