import WorkflowSearch.Service.Simulated

namespace WorkflowSearch

variable {α : Type} [Scalar α]

inductive Script (α : Type) where
  /-- The first executions fail. -/
  | fail (times : Nat)
  | failAlways
  | malformed
  | delay (ms : Nat)
  | answer (text : String)
  | output (output : CaseOutput α)
  | error (error : ServiceError)

structure ScriptedService (α : Type) where
  schema : Schema
  catalog : List Tool
  schemaUnavailable : Bool
  catalogUnavailable : Bool
  scripts : List (String × Script α)

namespace ScriptedService

def script? (service : ScriptedService α) (caseId : String) : Option (Script α) :=
  (service.scripts.find? (·.1 == caseId)).map (·.2)

/-- Whether executions of the case are simulated or fail as scripted, and are not replaced whole. -/
def isSimulated (service : ScriptedService α) (caseId : String) : Bool :=
  match service.script? caseId with
  | some (.output _) | some (.error _) => false
  | _ => true

def execute (service : ScriptedService α) (history : History) (blueprint : Blueprint)
    (case : Case) : Reply α :=
  let attempt := history.executions case.id + 1
  let simulated : CaseOutput α := simulatedOutput service.schema blueprint case
  let failure : ServiceError :=
    .invocation ("scripted failure #" ++ toString attempt ++ " for " ++ case.id)
  match service.script? case.id with
  | some (.fail times) => ⟨0, if attempt ≤ times then .error failure else .ok simulated⟩
  | some .failAlways => ⟨0, .error failure⟩
  | some .malformed => ⟨0, .error (.malformedOutput ("scripted garbage for " ++ case.id))⟩
  | some (.delay ms) => ⟨ms, .ok simulated⟩
  | some (.answer text) => ⟨0, .ok ⟨text, 50.0, 0.01⟩⟩
  | some (.output output) => ⟨0, .ok output⟩
  | some (.error error) => ⟨0, .error error⟩
  | none => ⟨0, .ok simulated⟩

def toService (service : ScriptedService α) : Service α where
  schema _ :=
    if service.schemaUnavailable then .error (.invocation "scripted schema outage")
    else .ok service.schema
  catalog _ :=
    if service.catalogUnavailable then .error (.invocation "scripted catalog outage")
    else .ok service.catalog
  execute := service.execute

end ScriptedService

end WorkflowSearch
