import WorkflowSearch.CommandLine.Arguments
import WorkflowSearch.CommandLine.EnvFile
import WorkflowSearch.CommandLine.FileTree
import WorkflowSearch.Config.Source
import WorkflowSearch.Judge.Rubric
import WorkflowSearch.Optimization.Artifact
import WorkflowSearch.Optimization.Json
import WorkflowSearch.Random.ChaCha
import WorkflowSearch.Service.Remote
import WorkflowSearch.Service.Simulated

namespace WorkflowSearch

def BackendConfig.service (config : BackendConfig) (network : Http.Network) : Service Double :=
  match config.kind with
  | .mock => .simulated simulatedSchema simulatedCatalog
  | .external => RemoteService.toService ⟨config, network⟩

def Surroundings.ofBackend (config : BackendConfig) (network : Http.Network) :
    Surroundings Double ChaCha where
  service := config.service network
  judges := judgesOver network
  source := ChaCha.ofSeed
  cancellation := .never

namespace OptimizationFault

def causes : OptimizationFault Double → List String
  | .configuration error => [error.message]
  | .synthesis error => [error.message]
  | .blueprint error => [error.message]
  | .search (.blueprint error) => [SearchError.message (.blueprint error), error.message]
  | .search error => [error.message]
  | .catalog _ | .materialization _ => []

end OptimizationFault

def OptimizationError.causes (error : OptimizationError Double) : List String :=
  error.fault.message :: error.fault.causes

namespace CommandLine

def commandName : String := "flowforge"

def versionText : String :=
  commandName ++ " " ++ Blueprint.documentVersion ++ "\n"

def helpText : String :=
  "\n".intercalate [
    "Optimize an agent workflow for a task and print the result", "",
    "Usage: " ++ commandName ++ " [OPTIONS] <TASK>", "",
    "Arguments:",
    "  <TASK>  Natural-language description of the task", "",
    "Options:",
    "      --seed <SEED>        Seed for synthesis, scheduling, and tie-breaking",
    "                           [env: FLOWFORGE_SEED] [default: 0]",
    "      --profile <PROFILE>  Experiment profile (e.g. \x60ablation_no_holdout\x60)",
    "      --rounds <ROUNDS>    Override the number of search rounds",
    "  -o, --output <OUTPUT>    Directory to materialize the best workflow into",
    "      --compact            Print the result as a single JSON line",
    "  -h, --help               Print help",
    "  -V, --version            Print version", ""]

/-- A text behind a mark, its further lines indented to the same column. -/
def hangingText (mark : String) (text : String) : String :=
  let lines := (Text.pieces (· = '\n') text.toList).map String.ofList
  mark ++ ("\n" ++ String.ofList (List.replicate mark.length ' ')).intercalate lines

def errorReport (message : String) (causes : List String) : String :=
  let lines :=
    match causes with
    | [cause] => [hangingText "    " cause]
    | _ => causes.zipIdx.map fun (cause, i) =>
      let digits := toString i
      hangingText (.ofList (List.replicate (5 - digits.length) ' ') ++ digits ++ ": ") cause
  let behind := if causes.isEmpty then "" else "\n\nCaused by:\n" ++ "\n".intercalate lines
  "Error: " ++ message ++ behind

structure Inputs where
  lookup : EnvFile.Lookup
  readFile : String → Option String
  network : Http.Network

structure Delivery where
  destination : String
  artifact : Artifact
  failure : String

/-- What a command comes to, before anything is written. -/
inductive Plan where
  | usage (error : UsageError)
  | information (text : String)
  | failure (report : String)
  | panicked
  | success (output : String) (delivery : Option Delivery)

def Arguments.adjust (arguments : Arguments) (config : Config Double) : Config Double :=
  let config :=
    match arguments.profile with
    | some profile => { config with profile := some profile }
    | none => config
  match arguments.rounds with
  | some rounds => { config with search.rounds := rounds }
  | none => config

def OptimizationResult.delivery (result : OptimizationResult Double ChaCha) (destination : String) :
    Delivery :=
  let error : OptimizationError Double :=
    ⟨.materialization (Artifact.unwritable destination), result.seed, result.config, result.history⟩
  { destination
    artifact := .ofBlueprint result.best.blueprint
    failure := errorReport error.message error.causes }

def Arguments.plan (arguments : Arguments) (inputs : Inputs) : Plan :=
  match Config.ofVariables inputs.lookup inputs.readFile with
  | .error error => .failure (errorReport "failed to load configuration" [error.message])
  | .ok config =>
    let config := arguments.adjust config
    let surroundings := Surroundings.ofBackend config.backend inputs.network
    match optimize surroundings arguments.task config arguments.seed with
    | .error (.failed error) => .failure (errorReport error.message error.causes)
    | .error (.panicked _) => .panicked
    | .ok result =>
      let report := result.toJson
      let text := if arguments.compact then report.compact else report.pretty
      .success (text ++ "\n") (arguments.output.map (OptimizationResult.delivery result))

def plan (arguments : List String) (inputs : Inputs) : Plan :=
  match Request.ofArguments inputs.lookup arguments with
  | .error error => .usage error
  | .ok .help => .information helpText
  | .ok .version => .information versionText
  | .ok (.run arguments) => arguments.plan inputs

structure Completion where
  exitCode : Nat
  stdout : String
  stderr : String
  written : FileTree

/-- Carries a plan out over files. Nothing is printed if a file cannot be written. -/
def Plan.complete (files : FileTree) : Plan → Completion
  | .usage error => ⟨2, "", "error: " ++ error.message ++ "\n", []⟩
  | .information text => ⟨0, text, "", []⟩
  | .failure report => ⟨1, "", report ++ "\n", []⟩
  | .panicked => ⟨101, "", "attempt to subtract with overflow\n", []⟩
  | .success output none => ⟨0, output, "", []⟩
  | .success output (some delivery) =>
    let path := Path.ofString (delivery.destination ++ "/" ++ delivery.artifact.file)
    if files.canWrite path then ⟨0, output, "", [(path, delivery.artifact.content)]⟩
    else ⟨1, "", delivery.failure ++ "\n", []⟩

def envFile : String := ".env"

def run (exported : List (String × String)) (files : FileTree) (arguments : List String) :
    Completion :=
  let readFile (path : String) : Option String := files.read? (Path.ofString path)
  let lookup : EnvFile.Lookup := EnvFile.orElse (fun _ => none) exported
  let lookup :=
    match readFile envFile with
    | some text => EnvFile.overlay lookup text
    | none => lookup
  (plan arguments ⟨lookup, readFile, .none⟩).complete files

end CommandLine

end WorkflowSearch
