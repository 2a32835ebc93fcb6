import LoanPricing.Decimal.Reader

/-!
# Options — what the command line asks for

Options are read from left to right, and the first thing that decides the matter does: an option
that asks for the version or for help, or something that cannot be read. An option with a value
takes it from after an equals sign or from the next argument, which must not look like an option;
only a credit score may. No option may be given twice, and there are no other arguments.
-/

namespace LoanPricing.CommandLine

inductive ValueOption where
  | rules
  | config
  | name
  | rate
  | state
  | creditScore
  deriving DecidableEq, Repr

inductive FlagOption where
  | strict
  | json
  | trace
  deriving DecidableEq, Repr

structure Options where
  rules : Option String := none
  config : Option String := none
  name : Option String := none
  rate : Option Float := none
  state : Option String := none
  creditScore : Option String := none
  strict : Bool := false
  json : Bool := false
  trace : Bool := false
  deriving DecidableEq, Repr

inductive UsageError where
  | unknownOption (arg : String)
  | unexpectedArgument (arg : String)
  | missingValue (option : String)
  | unexpectedValue (option : String)
  | repeatedOption (option : String)
  | invalidValue (option value : String)
  deriving DecidableEq, Repr

def UsageError.message : UsageError → String
  | unknownOption arg => "unexpected argument '" ++ arg ++ "' found"
  | unexpectedArgument arg => "unexpected argument '" ++ arg ++ "' found"
  | missingValue option => "a value is required for '--" ++ option ++ "' but none was supplied"
  | unexpectedValue option => "unexpected value for '--" ++ option ++ "' found; no more were expected"
  | repeatedOption option => "the argument '--" ++ option ++ "' cannot be used multiple times"
  | invalidValue option value => "invalid value '" ++ value ++ "' for '--" ++ option ++ "'"

inductive Stop where
  | usage (error : UsageError)
  | version
  | help
  deriving DecidableEq, Repr

def valueOptions : List (String × ValueOption) :=
  [("rules", .rules), ("config", .config), ("name", .name), ("rate", .rate), ("state", .state),
    ("credit-score", .creditScore)]

def flagOptions : List (String × FlagOption) :=
  [("strict", .strict), ("json", .json), ("trace", .trace)]

namespace Options

def given (o : Options) : ValueOption → Bool
  | .rules => o.rules.isSome
  | .config => o.config.isSome
  | .name => o.name.isSome
  | .rate => o.rate.isSome
  | .state => o.state.isSome
  | .creditScore => o.creditScore.isSome

/-- The options with one more that has a value; none if it does not take this value. A path is not
empty, and a rate is a number. -/
def set? (o : Options) (option : ValueOption) (value : String) : Option Options :=
  match option with
  | .rules => if value.isEmpty then none else some { o with rules := some value }
  | .config => if value.isEmpty then none else some { o with config := some value }
  | .name => some { o with name := some value }
  | .rate => (Decimal.float? value.toList).map fun x => { o with rate := some x }
  | .state => some { o with state := some value }
  | .creditScore => some { o with creditScore := some value }

def set (o : Options) (option : ValueOption) (spelled value : String) : Except Stop Options :=
  if o.given option then .error (.usage (.repeatedOption spelled))
  else
    match o.set? option value with
    | some o => .ok o
    | none => .error (.usage (.invalidValue spelled value))

def isOn (o : Options) : FlagOption → Bool
  | .strict => o.strict
  | .json => o.json
  | .trace => o.trace

def turnOn (o : Options) (flag : FlagOption) (spelled : String) : Except Stop Options :=
  if o.isOn flag then .error (.usage (.repeatedOption spelled))
  else
    match flag with
    | .strict => .ok { o with strict := true }
    | .json => .ok { o with json := true }
    | .trace => .ok { o with trace := true }

end Options

/-- What an argument is. -/
inductive Argument where
  /-- The mark after which there are no options. -/
  | separator
  /-- An option by its name, perhaps with a value after an equals sign. -/
  | long (name : String) (value : Option String)
  /-- An option by its letter. -/
  | short (letter : Char)
  | other
  deriving DecidableEq, Repr

def Argument.ofText (arg : String) : Argument :=
  match arg.toList with
  | ['-', '-'] => .separator
  | '-' :: '-' :: cs =>
    let name := String.ofList (cs.takeWhile (· != '='))
    match cs.dropWhile (· != '=') with
    | _ :: value => .long name (some (String.ofList value))
    | [] => .long name none
  | '-' :: c :: _ => .short c
  | _ => .other

/-- Whether an argument may be the value of the option before it. -/
def mayFollow (option : ValueOption) (arg : String) : Bool :=
  option == .creditScore || Argument.ofText arg == .other

/-- The options that arguments add to those before. -/
def parseFrom (o : Options) : List String → Except Stop Options
  | [] => .ok o
  | arg :: rest =>
    match Argument.ofText arg with
    | .separator =>
      match rest with
      | [] => .ok o
      | next :: _ => .error (.usage (.unexpectedArgument next))
    | .other => .error (.usage (.unexpectedArgument arg))
    | .short 'h' => .error .help
    | .short 'V' => .error .version
    | .short _ => .error (.usage (.unknownOption arg))
    | .long name value =>
      match valueOptions.lookup name, flagOptions.lookup name, value with
      | some option, _, some value =>
        match o.set option name value with
        | .ok o => parseFrom o rest
        | .error stop => .error stop
      | some option, _, none =>
        match rest with
        | next :: rest =>
          if mayFollow option next then
            match o.set option name next with
            | .ok o => parseFrom o rest
            | .error stop => .error stop
          else .error (.usage (.missingValue name))
        | [] => .error (.usage (.missingValue name))
      | none, some _, some _ => .error (.usage (.unexpectedValue name))
      | none, some flag, none =>
        match o.turnOn flag name with
        | .ok o => parseFrom o rest
        | .error stop => .error stop
      | none, none, value =>
        if name = "help" ∨ name = "version" then
          if value.isSome then .error (.usage (.unexpectedValue name))
          else if name = "help" then .error .help
          else .error .version
        else .error (.usage (.unknownOption arg))
termination_by args => args.length

/-- The options of a command line. The variable `CONFIG_DIR` stands in for the configuration
directory if it is not given. -/
def parse (args : List String) (configDir : Option String) : Except Stop Options :=
  match parseFrom {} args with
  | .error stop => .error stop
  | .ok o =>
    match o.config, configDir with
    | none, some dir => o.set .config "config" dir
    | _, _ => .ok o

end LoanPricing.CommandLine
