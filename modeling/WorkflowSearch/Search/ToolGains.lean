import WorkflowSearch.Scalar.Basic

namespace WorkflowSearch

variable {α : Type} [Scalar α]

structure ToolGain (α : Type) where
  tool : String
  gain : α
  observations : Nat

/-- At most one entry for each tool, in the order of the ids. -/
abbrev ToolGains (α : Type) := List (ToolGain α)

namespace ToolGains

def find? (gains : ToolGains α) (tool : String) : Option (ToolGain α) :=
  List.find? (·.tool == tool) gains

def gain (gains : ToolGains α) (tool : String) : α :=
  match gains.find? tool with
  | some entry => entry.gain
  | none => 0

def observations (gains : ToolGains α) (tool : String) : Nat :=
  match gains.find? tool with
  | some entry => entry.observations
  | none => 0

def put (entry : ToolGain α) : ToolGains α → ToolGains α
  | [] => [entry]
  | other :: rest =>
    match compare entry.tool other.tool with
    | .lt => entry :: other :: rest
    | .eq => entry :: rest
    | .gt => other :: put entry rest

/-- Adds an improvement to the average of a tool. -/
def observe (gains : ToolGains α) (tool : String) (improvement decay : α) : ToolGains α :=
  put { tool
        gain := decay * gains.gain tool + (1.0 - decay) * improvement
        observations := gains.observations tool + 1 } gains

end ToolGains

end WorkflowSearch
