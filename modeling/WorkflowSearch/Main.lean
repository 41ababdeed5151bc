import WorkflowSearch.CommandLine.Command

open WorkflowSearch WorkflowSearch.CommandLine

def readFile? (path : String) : IO (Option String) := do
  try
    return some (← IO.FS.readFile path)
  catch _ =>
    return none

def variableNames : List String :=
  ["CONFIG", "ENV", "SEED", "ROUNDS", "DATASET_SIZE", "PROFILE", "LOG_LEVEL", "RUNTIME",
    "RUNTIME_URL", "METRICS_PORT", "JUDGE_API_KEY"].map ("FLOWFORGE_" ++ ·)

def readVariables (names : List String) : IO (List (String × String)) :=
  names.filterMapM fun name => do
    return (← IO.getEnv name).map (name, ·)

def deliver (delivery : Delivery) : IO Bool := do
  try
    IO.FS.createDirAll delivery.destination
    IO.FS.writeFile (delivery.destination ++ "/" ++ delivery.artifact.file)
      delivery.artifact.content
    return true
  catch _ =>
    return false

def finish (completion : Completion) : IO UInt32 := do
  IO.print completion.stdout
  IO.eprint completion.stderr
  return completion.exitCode.toUInt32

def main (arguments : List String) : IO UInt32 := do
  let text := (← readFile? envFile).getD ""
  let mentioned := (Text.runs Text.isWordChar text.toList).map String.ofList
  let exported ← readVariables (variableNames ++ mentioned)
  let lookup := EnvFile.overlay (EnvFile.orElse (fun _ => none) exported) text
  let config ←
    match lookup "FLOWFORGE_CONFIG" with
    | some path => readFile? path
    | none => pure none
  match plan arguments ⟨lookup, fun _ => config, .none⟩ with
  | .success output (some delivery) =>
    if ← deliver delivery then finish ⟨0, output, "", []⟩
    else finish ⟨1, "", delivery.failure ++ "\n", []⟩
  | other => finish (other.complete [])
