import ValueOrder.CommandLine
import ValueOrder.Log.Filter
import ValueOrder.Log.Line
import ValueOrder.Pair
import ValueOrder.Suite

/-!
# The program

What a run prints and how it exits, as a function of its arguments, the files it
can see and the specification of its log.
-/

namespace ValueOrder

/-- What a run leaves behind. -/
structure Output where
  exitCode : Nat
  stdout : String
  stderr : String
  deriving DecidableEq, Repr

namespace Program

def version : String := "ordcheck 0.2.0"

/-- A short help. It is not the text of the argument parser: only the stream that help goes to and
the exit code are relied on. -/
def usage : String :=
  "ordcheck 0.2.0\n" ++
  "Evaluate <, <=, > and >= over runtime values\n\n" ++
  "USAGE:\n" ++
  "    ordcheck [OPTIONS] <LEFT> <OP> <RIGHT>\n" ++
  "    ordcheck [OPTIONS] --cases <PATH>[,<PATH>...]\n\n" ++
  "OPTIONS:\n" ++
  "        --cases <PATH>    Case files or directories of case files to run\n" ++
  "        --fail-fast       Stop at the first failing case\n" ++
  "    -h, --help            Print help information\n" ++
  "    -v, --verbose         Increase log verbosity (repeatable)\n" ++
  "    -V, --version         Print version information\n"

/-- What is said about arguments that are not carried out. As with help, it is not the wording of
the argument parser, and only the stream and the exit code are relied on. -/
def usageMessage : UsageError → String
  | .help => usage
  | .version => version ++ "\n"
  | .unknownArgument => "error: unknown argument\n"
  | .unexpectedValue => "error: a value for an option that takes none\n"
  | .emptyValue => "error: --cases needs a path\n"
  | .conflict => "error: operands cannot be used with --cases\n"
  | .missingOperand => "error: LEFT, OP and RIGHT are required\n"
  | .repeatedOption => "error: --fail-fast was given more than once\n"

/-- The output for arguments that are not carried out. Help and version are answers,
all else is an error. -/
def refusal (e : UsageError) : Output :=
  match e with
  | .help | .version => ⟨0, usageMessage e, ""⟩
  | _ => ⟨2, "", usageMessage e⟩

/-- What carrying out a request prints besides the log. -/
def outcome (t : FileTree) (config : Config) : Logged Output :=
  match config.mode with
  | .pair left op right => do
    match ← Pair.answer left op right with
    | .ok holds => return ⟨0, answerWord holds ++ "\n", ""⟩
    | .error e => return ⟨1, "", e.report.render⟩
  | .cases paths => do
    match ← Suite.run t (paths.map .ofString) config.failFast with
    | .ok s =>
      return ⟨if s.success then 0 else 1, s.render ++ "\n",
        String.join (s.failures.map fun f => f.render ++ "\n")⟩
    | .error e => return ⟨1, "", e.report.render⟩

/-- What the log prints: complaints about its specification, then the records that
the filter admits. -/
def logText (level : Level) (spec? : Option String) (records : List Record) : String :=
  let spec := Specification.ofText (spec?.getD "")
  let shown := records.filter (Filter.ofSpecification level spec).admits
  String.join (spec.complaints.map (·.message ++ "\n") ++ Record.lines 0 shown)

/-- Carries out a request. The log comes before what the program itself reports. -/
def execute (t : FileTree) (spec? : Option String) (config : Config) : Output :=
  let run := outcome t config
  { run.result with stderr := logText config.level spec? run.records ++ run.result.stderr }

def run (args : List String) (t : FileTree) (spec? : Option String) : Output :=
  match CommandLine.parse args with
  | .error e => refusal e
  | .ok config => execute t spec? config

end Program

end ValueOrder
