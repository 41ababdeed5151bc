import WorkflowSearch.Config.Validity

namespace WorkflowSearch

variable {α : Type} [Scalar α]

/-- Accepts the names of an environment in any case, and their short forms. -/
def Environment.ofName (s : String) : Except (ConfigError α) Environment :=
  match Text.lowercase s with
  | "dev" | "development" => .ok .development
  | "staging" | "stage" => .ok .staging
  | "prod" | "production" => .ok .production
  | _ => .error (.unknownName "environment" s)

/-- A decimal number below `2 ^ bits`, with a plus sign allowed. -/
def number? (bits : Nat) (s : String) : Option Nat :=
  let cs := s.toList
  let digits := if cs.head? = some '+' then cs.drop 1 else cs
  if digits.isEmpty || !digits.all Char.isDigit then none
  else
    let n := digits.foldl (fun n c => n * 10 + (c.toNat - '0'.toNat)) 0
    if n < Nat.pow 2 bits then some n else none

namespace Config

def load (environment : Environment) : Except (ConfigError α) (Config α) := do
  let config := ofEnvironment environment
  config.validate
  return config

def override {β : Type} (lookup : String → Option String) (key : String)
    (read : String → String → Except (ConfigError α) β) (set : Config α → β → Config α)
    (config : Config α) : Except (ConfigError α) (Config α) :=
  match lookup key with
  | none => .ok config
  | some value => (read key value).map (set config)

def readNumber (bits : Nat) (key value : String) : Except (ConfigError α) Nat :=
  match number? bits (Text.trim value) with
  | some n => .ok n
  | none => .error (.notANumber key value)

def readText (_ value : String) : Except (ConfigError α) String :=
  .ok value

def readBackend (_ value : String) : Except (ConfigError α) BackendKind :=
  match Text.lowercase value with
  | "mock" => .ok .mock
  | "external" => .ok .external
  | _ => .error (.unknownName "runtime backend" value)

/-- Takes over every variable that is present, and validates the result. -/
def applyOverrides (lookup : String → Option String) (config : Config α) :
    Except (ConfigError α) (Config α) := do
  let config ← config.override lookup "FLOWFORGE_ROUNDS" (readNumber 64)
    fun c n => { c with search.rounds := n }
  let config ← config.override lookup "FLOWFORGE_DATASET_SIZE" (readNumber 64)
    fun c n => { c with dataset.targetSize := n }
  let config ← config.override lookup "FLOWFORGE_PROFILE" readText
    fun c s => { c with profile := some s }
  let config ← config.override lookup "FLOWFORGE_LOG_LEVEL" readText
    fun c s => { c with observability.logLevel := s }
  let config ← config.override lookup "FLOWFORGE_RUNTIME" readBackend
    fun c kind => { c with backend.kind := kind }
  let config ← config.override lookup "FLOWFORGE_RUNTIME_URL" readText
    fun c s => { c with backend.baseUrl := s }
  let config ← config.override lookup "FLOWFORGE_METRICS_PORT" (readNumber 16)
    fun c n => { c with observability.metricsPort := n, observability.metricsEnabled := true }
  let config ← config.override lookup "FLOWFORGE_JUDGE_API_KEY" readText
    fun c s => { c with search.evaluation.rubric.apiKey := some s }
  config.validate
  return config

end Config

end WorkflowSearch
