import WorkflowSearch.Config.Variables

namespace WorkflowSearch.CommandLine

structure Arguments where
  task : String
  seed : Nat
  profile : Option String
  rounds : Option Nat
  output : Option String
  compact : Bool

inductive Request where
  | run (arguments : Arguments)
  | help
  | version

inductive UsageError where
  | unknownFlag (flag : String)
  | unexpectedArgument (argument : String)
  | unexpectedValue (flag : String)
  | missingValue (flag : String)
  | repeatedFlag (flag : String)
  | invalidValue (flag value : String)
  | missingTask

def UsageError.message : UsageError → String
  | .unknownFlag flag => "unexpected argument '" ++ flag ++ "' found"
  | .unexpectedArgument argument => "unexpected argument '" ++ argument ++ "' found"
  | .unexpectedValue flag => "unexpected value for '" ++ flag ++ "' found; no more were expected"
  | .missingValue flag => "a value is required for '" ++ flag ++ "' but none was supplied"
  | .repeatedFlag flag => "the argument '" ++ flag ++ "' cannot be used multiple times"
  | .invalidValue flag value => "invalid value '" ++ value ++ "' for '" ++ flag ++ "'"
  | .missingTask => "the following required arguments were not provided: <TASK>"

inductive ValueFlag where
  | seed
  | profile
  | rounds
  | output
  deriving DecidableEq

def ValueFlag.name : ValueFlag → String
  | .seed => "--seed"
  | .profile => "--profile"
  | .rounds => "--rounds"
  | .output => "--output"

structure Given where
  task : Option String
  seed : Option Nat
  profile : Option String
  rounds : Option Nat
  output : Option String
  compact : Bool

namespace Given

def initial : Given :=
  ⟨none, none, none, none, none, false⟩

def setTask (given : Given) (task : String) : Except UsageError Given :=
  match given.task with
  | none => .ok { given with task := some task }
  | some _ => .error (.unexpectedArgument task)

def setCompact (given : Given) : Except UsageError Given :=
  if given.compact then .error (.repeatedFlag "--compact") else .ok { given with compact := true }

def setValue (given : Given) (flag : ValueFlag) (value : String) : Except UsageError Given :=
  let once {β : Type} (before : Option β) (read : Option β) (set : Option β → Given) :
      Except UsageError Given :=
    if read.isNone then .error (.invalidValue flag.name value)
    else if before.isSome then .error (.repeatedFlag flag.name)
    else .ok (set read)
  match flag with
  | .seed => once given.seed (number? 64 value) fun n => { given with seed := n }
  | .rounds => once given.rounds (number? 64 value) fun n => { given with rounds := n }
  | .profile => once given.profile (some value) fun s => { given with profile := s }
  | .output =>
    let value? := if value.isEmpty then none else some value
    once given.output value? fun s => { given with output := s }

end Given

inductive Word where
  | separator
  /-- An option with the value attached to it, if any. -/
  | value (flag : ValueFlag) (attached : Option String)
  | compact
  | help
  | version
  | unexpectedValue (flag : String)
  | unknown (flag : String)
  | positional (text : String)

def Word.ofLong (name : String) (attached : Option String) : Word :=
  let flag (word : Word) : Word :=
    if attached.isSome then .unexpectedValue ("--" ++ name) else word
  match name with
  | "seed" => .value .seed attached
  | "profile" => .value .profile attached
  | "rounds" => .value .rounds attached
  | "output" => .value .output attached
  | "compact" => flag .compact
  | "help" => flag .help
  | "version" => flag .version
  | _ => .unknown ("--" ++ name)

def Word.ofString (argument : String) : Word :=
  match argument.toList with
  | ['-', '-'] => .separator
  | '-' :: '-' :: cs =>
    let name := cs.takeWhile (· ≠ '=')
    let attached := match cs.dropWhile (· ≠ '=') with
      | _ :: text => some (.ofList text)
      | [] => none
    .ofLong (.ofList name) attached
  | '-' :: 'o' :: cs =>
    match cs with
    | [] => .value .output none
    | '=' :: text => .value .output (some (.ofList text))
    | text => .value .output (some (.ofList text))
  | '-' :: 'h' :: _ => .help
  | '-' :: 'V' :: _ => .version
  | '-' :: c :: _ => .unknown (.ofList ['-', c])
  | _ => .positional argument

/-- Reads arguments from left to right until one asks for help or the version, or all are read. -/
def readArguments (given : Given) : List String → Except UsageError (Given ⊕ Request)
  | [] => .ok (.inl given)
  | argument :: rest =>
    match Word.ofString argument with
    | .separator => (rest.foldlM Given.setTask given).map .inl
    | .positional text => do readArguments (← given.setTask text) rest
    | .compact => do readArguments (← given.setCompact) rest
    | .help => .ok (.inr .help)
    | .version => .ok (.inr .version)
    | .unexpectedValue flag => .error (.unexpectedValue flag)
    | .unknown flag => .error (.unknownFlag flag)
    | .value flag (some value) => do readArguments (← given.setValue flag value) rest
    | .value flag none =>
      match rest with
      | [] => .error (.missingValue flag.name)
      | value :: rest =>
        match Word.ofString value with
        | .positional value => do readArguments (← given.setValue flag value) rest
        | _ => .error (.missingValue flag.name)

/-- Reads a request. A seed that is not given may come from a variable, and is zero otherwise. -/
def Request.ofArguments (lookup : String → Option String) (arguments : List String) :
    Except UsageError Request := do
  match ← readArguments .initial arguments with
  | .inr request => return request
  | .inl given =>
    let given ←
      match given.seed, lookup "FLOWFORGE_SEED" with
      | none, some value => given.setValue .seed value
      | _, _ => .ok given
    match given.task with
    | none => throw .missingTask
    | some task =>
      return .run { task, seed := given.seed.getD 0, profile := given.profile,
                    rounds := given.rounds, output := given.output, compact := given.compact }

end WorkflowSearch.CommandLine
