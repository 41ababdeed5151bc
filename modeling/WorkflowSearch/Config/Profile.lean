import WorkflowSearch.Config.Validity

namespace WorkflowSearch

variable {α : Type} [Scalar α]

inductive Profile where
  | fullSystem
  | baselineStaticPromptOnly
  | dynamicPromptOnly
  | dynamicPromptTool
  | ablationNoHoldout
  | ablationSingleJudge
  | ablationNoHardNegative
  | ablationNoToolGain
  | ablationNoTopologyMutation
  deriving DecidableEq

namespace Profile

def all : List Profile :=
  [.fullSystem, .baselineStaticPromptOnly, .dynamicPromptOnly, .dynamicPromptTool,
    .ablationNoHoldout, .ablationSingleJudge, .ablationNoHardNegative, .ablationNoToolGain,
    .ablationNoTopologyMutation]

def name : Profile → String
  | .fullSystem => "full_system"
  | .baselineStaticPromptOnly => "baseline_static_prompt_only"
  | .dynamicPromptOnly => "dynamic_prompt_only"
  | .dynamicPromptTool => "dynamic_prompt_tool"
  | .ablationNoHoldout => "ablation_no_holdout"
  | .ablationSingleJudge => "ablation_single_judge"
  | .ablationNoHardNegative => "ablation_no_hard_negative"
  | .ablationNoToolGain => "ablation_no_tool_gain"
  | .ablationNoTopologyMutation => "ablation_no_topology_mutation"

def ofName (s : String) : Except (ConfigError α) Profile :=
  match all.find? (·.name == s) with
  | some profile => .ok profile
  | none => .error (.unknownName "experiment profile" s)

/-- Prompt mutations only, or prompt and tool mutations, with one judge and no penalties. -/
def reduce (config : Config α) (dynamic tools : Bool) : Config α :=
  { config with
    dataset.paraphrase := dynamic
    dataset.hardNegatives := dynamic
    search.evaluation.judges := [.heuristic]
    search.enablePromptMutation := true
    search.enableToolMutation := tools
    search.enableTopologyMutation := false
    search.enableToolHistoricalGain := tools
    search.failureAwareScheduling := false
    search.useHoldout := true
    search.objective.uncertainty := 0
    search.objective.generalization := 0 }

def adjust (profile : Profile) (config : Config α) : Config α :=
  match profile with
  | .fullSystem => config
  | .baselineStaticPromptOnly => reduce config false false
  | .dynamicPromptOnly => reduce config true false
  | .dynamicPromptTool => reduce config true true
  | .ablationNoHoldout =>
    { config with
      search.useHoldout := false
      search.objective.uncertainty := 0.12
      search.objective.generalization := 0 }
  | .ablationSingleJudge => { config with search.evaluation.judges := [.heuristic] }
  | .ablationNoHardNegative => { config with dataset.hardNegatives := false }
  | .ablationNoToolGain => { config with search.enableToolHistoricalGain := false }
  | .ablationNoTopologyMutation => { config with search.enableTopologyMutation := false }

def apply (profile : Profile) (config : Config α) : Config α :=
  { profile.adjust config with profile := some profile.name }

end Profile

/-- Applies the profile that the configuration names, if any, and validates the result. The first
component is the configuration as it then stands, also after a failed validation. -/
def Config.resolveProfile (config : Config α) :
    Config α × Except (ConfigError α) (Option Profile) :=
  match config.profile with
  | none => (config, .ok none)
  | some name =>
    match Profile.ofName name with
    | .error error => (config, .error error)
    | .ok profile =>
      let resolved := profile.apply config
      (resolved, resolved.validate.map fun _ => some profile)

end WorkflowSearch
