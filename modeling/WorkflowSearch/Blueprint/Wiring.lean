import WorkflowSearch.Blueprint.Basic

namespace WorkflowSearch

def chain : List Operator → List Edge
  | a :: b :: rest => ⟨a.name, b.name⟩ :: chain (b :: rest)
  | _ => []

/-- A router fans out to all operators between the first and the last, and these into the last one;
without such operators, and in the other modes, the operators form a chain. -/
def wire (mode : Topology) (operators : List Operator) : List Edge :=
  match mode, operators with
  | .routerParallel, first :: middle :: last :: rest =>
    let others := middle :: last :: rest
    let sink := others.getLastD last
    others.dropLast.flatMap fun op => [⟨first.name, op.name⟩, ⟨op.name, sink.name⟩]
  | _, _ => chain operators

namespace Topology

def operators (mode : Topology) (tools : List String) : List Operator :=
  match mode with
  | .linear =>
    [{ name := "solver"
       role := .solver
       prompt :=
         "Solve the graph task in as few steps as possible and cite the evidence you used."
       outputSchema := "answer: concise factual answer"
       tools }]
  | .plannerWorkerReviewer =>
    [{ name := "planner"
       role := .planner
       prompt := "Plan the graph operations and tools needed before anything is executed."
       outputSchema := "plan: ordered graph actions"
       tools },
     { name := "worker"
       role := .worker
       prompt := "Execute the plan step by step and collect graph evidence."
       outputSchema := "draft_answer: evidence-backed result"
       tools },
     { name := "reviewer"
       role := .reviewer
       prompt := "Audit the draft answer and remove claims the evidence does not support."
       outputSchema := "final_answer: corrected result"
       tools }]
  | .routerParallel =>
    [{ name := "router"
       role := .router
       prompt := "Route the request by intent and required capability."
       outputSchema := "route: chosen branch"
       tools },
     { name := "query_branch"
       role := .branch
       prompt := "Handle lookup requests with strict schema grounding."
       outputSchema := "query_result: branch output"
       tools },
     { name := "analysis_branch"
       role := .branch
       prompt := "Handle analytics requests and state which algorithm produced each figure."
       outputSchema := "analysis_result: branch output"
       tools },
     { name := "synthesizer"
       role := .synthesizer
       prompt := "Merge branch outputs and return a verified final answer."
       outputSchema := "final_answer: merged result"
       tools }]

end Topology

namespace Blueprint

def seedToolCount : Nat := 2

/-- The contents of a root: all ranked tools in the set, the first two with every operator. -/
def initialParts (id appName task : String) (ranked : List Tool) (mode : Topology) : Parts :=
  let operators := mode.operators ((ranked.take seedToolCount).map (·.id))
  { id, appName, task, topology := mode, operators, edges := wire mode operators, tools := ranked,
    parentId := none, lineage := [] }

def initial (id appName task : String) (ranked : List Tool) (mode : Topology) :
    Except BlueprintError Blueprint :=
  ofParts (initialParts id appName task ranked mode)

end Blueprint

end WorkflowSearch
