import WorkflowSearch.Config.Document
import WorkflowSearch.Config.Variables

namespace WorkflowSearch.Config

def ofFile (readFile : String → Option String) (path : String) :
    Except (ConfigError Double) (Config Double) :=
  match readFile path with
  | none => .error (.unreadableFile path)
  | some text => ofToml text

def ofVariables (lookup : String → Option String) (readFile : String → Option String) :
    Except (ConfigError Double) (Config Double) := do
  let config ←
    match lookup "FLOWFORGE_CONFIG" with
    | some path => ofFile readFile path
    | none => load (← Environment.ofName ((lookup "FLOWFORGE_ENV").getD "development"))
  config.applyOverrides lookup

end WorkflowSearch.Config
