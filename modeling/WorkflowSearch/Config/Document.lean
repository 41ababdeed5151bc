import WorkflowSearch.Config.Json
import WorkflowSearch.Config.Validity
import WorkflowSearch.Toml.Parser

namespace WorkflowSearch.Config

def ofToml (text : String) : Except (ConfigError Double) (Config Double) := do
  match (Toml.parse? text).bind Config.ofJson? with
  | none => throw .malformedDocument
  | some config =>
    config.validate
    return config

end WorkflowSearch.Config
