import Dataflow.Document.Engine
import Dataflow.Engine.Basic
import Dataflow.Engine.ConfigFile
/-!
# The command line

`Invocation.parse` says what the arguments of the program ask for, and `Invocation.perform` does it
on any file system. The program runs one graph of a directory, or writes the manifests of the
plugins into a directory.
-/

namespace Dataflow

/-- What the program is asked for. -/
inductive Invocation where
  /-- To run the graph `name` of a directory. -/
  | run (config? : Option String) (directory name : String)
  /-- To write the manifests into a directory. -/
  | publish (config? : Option String) (directory : String)
  | help
  | version
deriving DecidableEq

/-- Why arguments make no sense. -/
inductive UsageError where
  | unknownOption (argument : String)
  | missingValue (option : String)
  | needlessValue (option : String)
  | repeatedOption (option : String)
  | emptyDirectory
  | surplusArgument (argument : String)
  | conflict
  | missingArgument
deriving DecidableEq

/-- The message of a usage error. -/
def UsageError.message : UsageError → String
  | .unknownOption argument => s!"error: unexpected argument '{argument}' found"
  | .missingValue option => s!"error: a value is required for '{option}' but none was supplied"
  | .needlessValue option => s!"error: unexpected value for '{option}' found"
  | .repeatedOption option =>
    s!"error: the argument '{option}' cannot be used multiple times"
  | .emptyDirectory => "error: a value is required for '[SANCTUM]' but none was supplied"
  | .surplusArgument argument => s!"error: unexpected argument '{argument}' found"
  | .conflict => "error: the argument '--generate-anima <DIR>' cannot be used with a graph to run"
  | .missingArgument =>
    "error: the following required arguments were not provided: <SANCTUM> <GRAPH>"

namespace Invocation

/-! ## Arguments -/

/-- The arguments that were read so far. -/
structure Given where
  config? : Option String := none
  manifests? : Option String := none
  directory? : Option String := none
  name? : Option String := none

/-- The option of the configuration file. -/
def configOption : String := "--config"

/-- The option of the directory for manifests. -/
def manifestsOption : String := "--generate-anima"

namespace Given

/-- Takes one more argument that belongs to no option: first the directory, then the graph. -/
def addArgument (g : Given) (argument : String) : Except UsageError Given :=
  match g.directory?, g.name? with
  | none, _ =>
    if argument.isEmpty then .error .emptyDirectory else .ok { g with directory? := some argument }
  | some _, none => .ok { g with name? := some argument }
  | some _, some _ => .error (.surplusArgument argument)

/-- The value for an option that may be given once. -/
def once (option : String) (given? : Option String) (value : String) :
    Except UsageError (Option String) :=
  if given?.isSome then .error (.repeatedOption option)
  else if value.isEmpty then .error (.missingValue option)
  else .ok (some value)

/-- Takes the value of an option. -/
def addOption (g : Given) (option value : String) : Except UsageError Given := do
  if option = configOption then return { g with config? := ← once option g.config? value }
  else if option = manifestsOption then
    return { g with manifests? := ← once option g.manifests? value }
  else throw (.unknownOption option)

/-- What all arguments together ask for. Writing manifests needs no graph and allows none. -/
def invocation (g : Given) : Except UsageError Invocation :=
  match g.manifests?, g.directory?, g.name? with
  | some target, none, none => .ok (.publish g.config? target)
  | some _, _, _ => .error .conflict
  | none, some directory, some name => .ok (.run g.config? directory name)
  | none, _, _ => .error .missingArgument

end Given

/-- Whether an argument is an option; a dash alone is a file name. -/
def isOption (argument : String) : Bool :=
  match argument.toList with
  | '-' :: _ :: _ => true
  | _ => false

/-- Whether a value follows an option. -/
def takesValue (option : String) : Bool := option = configOption || option = manifestsOption

/-- An option and the value that is attached to it by an equals sign. -/
def splitOption (argument : String) : String × Option String :=
  let cs := argument.toList
  match cs.dropWhile (· ≠ '=') with
  | [] => (argument, none)
  | _ :: value => (String.ofList (cs.takeWhile (· ≠ '=')), some (String.ofList value))

/-- What an option asks for that takes no value. It ends reading: later arguments do not matter,
nor do further letters behind the same dash. -/
def ofStandalone (option : String) (value? : Option String) : Except UsageError Invocation :=
  match option.toList with
  | '-' :: 'h' :: _ => .ok .help
  | '-' :: 'V' :: _ => .ok .version
  | _ =>
    if option ≠ "--help" ∧ option ≠ "--version" then .error (.unknownOption option)
    else if value?.isSome then .error (.needlessValue option)
    else .ok (if option = "--help" then .help else .version)

/-- Reads the arguments that follow those of `g`. Behind two dashes there are no options. -/
def parseFrom (g : Given) : List String → Except UsageError Invocation
  | [] => g.invocation
  | argument :: rest =>
    if argument = "--" then do
      let g ← rest.foldlM Given.addArgument g
      g.invocation
    else if !isOption argument then do
      parseFrom (← g.addArgument argument) rest
    else
      let (option, value?) := splitOption argument
      if takesValue option then
        match value?, rest with
        | some value, rest => do
          parseFrom (← g.addOption option value) rest
        | none, value :: rest => do
          if isOption value then throw (.missingValue option)
          parseFrom (← g.addOption option value) rest
        | none, [] => .error (.missingValue option)
      else ofStandalone option value?

/-- What the arguments ask for. -/
def parse (arguments : List String) : Except UsageError Invocation := parseFrom {} arguments

example : (parse ["--config", "c.yaml", "graphs", "demo"]).toOption =
    some (.run (some "c.yaml") "graphs" "demo") := by decide +kernel
example : (parse ["--generate-anima=out"]).toOption = some (.publish none "out") := by
  decide +kernel
example : (parse ["--generate-anima", "out", "graphs"]).toOption = none := by decide +kernel
example : (parse ["graphs", "--", "-g"]).toOption = some (.run none "graphs" "-g") := by
  decide +kernel
example : (parse ["graphs", "--help", "--unknown"]).toOption = some .help := by decide +kernel

/-! ## Outcomes -/

/-- What the program ends with. -/
structure Outcome where
  exitCode : UInt32
  output : String := ""
  /-- What is said beside the output. -/
  complaint : String := ""

namespace Outcome

/-- The end of a program that did what it was asked for. -/
def success (output : String) : Outcome := { exitCode := 0, output }

/-- The end of a program that could not. -/
def failure (complaint : String) : Outcome := { exitCode := 1, complaint := complaint ++ "\n" }

/-- The end of a program that was not asked properly. -/
def usage (e : UsageError) : Outcome := { exitCode := 2, complaint := e.message ++ "\n" }

/-- The end of a run: its envelope, and whether it succeeded. -/
def ofEnvelope (e : Envelope) : Outcome where
  exitCode := if e.isSuccess then 0 else 1
  output := e.toJson.pretty ++ "\n"

end Outcome

/-- The text for those who ask for help. -/
def helpText : String := "\n".intercalate [
  "Run `.weave` graphs against the builtin plugins",
  "",
  "Usage: anima-weave [OPTIONS] [SANCTUM] [GRAPH]",
  "",
  "Arguments:",
  "  [SANCTUM]  Directory holding the .weave files",
  "  [GRAPH]    Graph to run, without the .weave extension",
  "",
  "Options:",
  "      --config <FILE>         YAML engine configuration",
  "      --generate-anima <DIR>  Write the builtin plugins' .anima files into DIR and exit",
  "  -h, --help                  Print help",
  "  -V, --version               Print version",
  ""]

/-- The version of the program. -/
def versionText : String := "anima-weave 0.1.0\n"

variable {m : Type → Type} [Monad m] [FileAccess m]

/-- The configuration of a file, or the default one. -/
def loadConfig : Option String → m (Except ConfigError Config)
  | none => pure (.ok {})
  | some path => Config.load path

/-- Sets up an engine. -/
def withEngine (config : Config) (loader : Loader)
    (use : Engine → StateT Session m Outcome) : StateT Session m Outcome := do
  match ← ((Engine.new config loader).setUp : StateT Session m _) with
  | (.error e, _) => return .failure e.message
  | (.ok (), engine) => use engine

/-- Does what is asked for. A configuration is read before anything else. -/
def perform (loader : Loader) : Invocation → StateT Session m Outcome
  | .help => return .success helpText
  | .version => return .success versionText
  | .publish config? directory => do
    match ← StateT.lift (loadConfig config?) with
    | .error e => return .failure e.message
    | .ok config =>
      withEngine { config with manifestDirectory? := some directory } loader fun _ =>
        return .success ""
  | .run config? directory name => do
    match ← StateT.lift (loadConfig config?) with
    | .error e => return .failure e.message
    | .ok config =>
      withEngine config loader fun engine => do
        let (envelope, _) ← engine.executeGraph directory name
        return .ofEnvelope envelope

end Invocation

/-- Runs the program with its arguments. -/
def runProgram {m : Type → Type} [Monad m] [FileAccess m] (loader : Loader)
    (arguments : List String) : StateT Session m Invocation.Outcome :=
  match Invocation.parse arguments with
  | .error e => return .usage e
  | .ok asked => asked.perform loader

end Dataflow
