import LoanPricing.CommandLine.Run
import Std.Time.DateTime

/-!
# The program — input, output and files

Everything that the program decides is decided elsewhere. Here its arguments, variables, files and
input are read, and its output, its error stream and its exit code are produced.
-/

namespace LoanPricing.Program

open CommandLine

def faultOf : IO.Error → FileFault
  | .noFileOrDirectory .. => .notFound
  | .inappropriateType _ code _ => if code = 21 then .isDirectory else .notDirectory
  | .permissionDenied .. => .other "Permission denied (os error 13)"
  | e => .other (toString e)

def readPath (path : String) : IO (Except FileFault (List UInt8)) := do
  if path.toList.contains '\x00' then return .error .nulInPath
  match ← (IO.FS.readBinFile path).toBaseIO with
  | .ok bytes => return .ok bytes.toList
  | .error e => return .error (faultOf e)

/-- A disk that knows what some paths hold now. -/
def readDisk (paths : List String) : IO Disk := do
  let known ← paths.mapM fun path => do return (path, ← readPath path)
  return fun path => (known.lookup path).getD (.error .notFound)

/-- The bytes up to and including the next line feed of a stream. -/
partial def readLine (input : IO.FS.Stream) (line : List UInt8) : IO (List UInt8) := do
  match (← input.read 1).toList with
  | [] => return line.reverse
  | b :: _ => if b = Text.lineFeed then return (b :: line).reverse else readLine input (b :: line)

/-- A value that is given, or else the next answer to a prompt. -/
def askFor (input output : IO.FS.Stream) (prompt : String) : Option String → IO String
  | some value => return value
  | none => do
    output.putStr prompt
    output.flush
    return (Text.nextAnswer (← readLine input [])).1

def readVariables : IO Config.Variables := do
  match ← (IO.FS.readBinFile "/proc/self/environ").toBaseIO with
  | .error _ => return []
  | .ok bytes =>
    let entries := (bytes.toList.splitOn 0).filterMap Text.Utf8.decode?
    return entries.filterMap fun cs =>
      match cs.dropWhile (· != '=') with
      | [] => none
      | _ :: value => some (String.ofList (cs.takeWhile (· != '=')), String.ofList value)

/-- The time now, in the form that log lines begin with. -/
def timeText : IO String := do
  let nanoseconds := (← Std.Time.Timestamp.now).toNanosecondsSinceUnixEpoch.val.toNat
  let seconds := nanoseconds / 1000000000
  let date := Std.Time.PlainDate.ofEpochDay ⟨(seconds / 86400 : Nat)⟩
  let two := Toml.padded 2
  return String.ofList <|
    Toml.padded 4 date.year.toInt.toNat ++ '-' :: two date.month.val.toNat ++
      '-' :: two date.day.val.toNat ++ 'T' :: two (seconds / 3600 % 24) ++
      ':' :: two (seconds / 60 % 60) ++ ':' :: two (seconds % 60) ++
      '.' :: Toml.padded 6 (nanoseconds / 1000 % 1000000) ++ ['Z']

/-- The outcome on the streams of the process, and its exit code. -/
def deliver (outcome : Outcome) : IO UInt32 := do
  match outcome with
  | .usage e => IO.eprintln ("error: " ++ e.message)
  | .finished _ output json errors =>
    for e in errors do
      IO.eprint (e.text json (← timeText))
    IO.print output
  return outcome.code.toUInt32

/-- The microseconds that a run takes to apply its rules, found by applying them once for that. -/
def timeRules (setup : Setup) (disk : Disk) (borrower : Borrower) : IO UInt64 := do
  let rules := (RuleSet.loadOrReport setup.mode disk setup.rulesPath).value
  match parseCreditScore borrower.creditScore, rules with
  | .ok creditScore, some set =>
    let product := productOf setup.options borrower.state creditScore
    let start ← IO.monoNanosNow
    let _ ← IO.lazyPure fun _ => evaluate setup.options.trace (some set) product
    let stop ← IO.monoNanosNow
    return ((stop - start) / 1000).toUInt64
  | _, _ => return 0

/-- The paths of the configuration files that a command line may lead to, those with an ending other
than `.toml` left out. -/
def configurationPaths (args : List String) (env : Config.Variables) : List String :=
  match parse args (env.lookup "CONFIG_DIR") with
  | .ok options =>
    (Config.fileNames options.configDir env).flatMap fun path => [path, path ++ ".toml"]
  | .error _ => []

def run (args : List String) : IO UInt32 := do
  let env ← readVariables
  let disk ← readDisk (configurationPaths args env)
  match prepare args disk env with
  | .error outcome => deliver outcome
  | .ok setup =>
    let input ← IO.getStdin
    let output ← IO.getStdout
    let state ← askFor input output statePrompt setup.options.state
    let creditScore ← askFor input output scorePrompt setup.options.creditScore
    let disk ← readDisk [setup.rulesPath]
    let borrower : Borrower := { state, creditScore }
    let elapsed ← timeRules setup disk borrower
    deliver (setup.conclude disk "" borrower elapsed)

end LoanPricing.Program

def main (args : List String) : IO UInt32 :=
  LoanPricing.Program.run args
