import WorkflowSearch.Proofs.Search.Best
import WorkflowSearch.Proofs.Search.Growth

namespace WorkflowSearch

variable {α σ : Type} [Scalar α]

def Operator.reset (tools : List String) (op : Operator) : Operator :=
  { op with prompt := basePrompt op.prompt, tools }

instance (text : String) : Decidable (IsBasePrompt text) :=
  decidable_of_iff (Text.trimChars text.toList = text.toList ∧ ¬ sectionMarker <:+: text.toList)
    ⟨fun h ↦ ⟨h.1, h.2⟩, fun h ↦ ⟨h.trimmed, h.plain⟩⟩

namespace Topology

theorem map_operators (mode : Topology) (tools tools' : List String) :
    (mode.operators tools).map ({ · with tools := tools' }) = mode.operators tools' := by
  cases mode <;> rfl

theorem isBasePrompt_of_mem_operators {mode : Topology} {tools : List String} {op : Operator}
    (h : op ∈ mode.operators tools) : IsBasePrompt op.prompt := by
  have hall : ∀ op ∈ mode.operators [], IsBasePrompt op.prompt := by
    cases mode <;> decide +kernel
  have hmem : { op with tools := [] } ∈ mode.operators [] := by
    rw [← map_operators mode tools []]
    exact List.mem_map_of_mem h
  exact hall { op with tools := [] } hmem

theorem map_reset_operators (mode : Topology) {behind : Operator → String}
    (hbehind : ∀ op, IsSections (behind op)) (tools tools' : List String) :
    ((mode.operators tools).map fun op ↦ { op with prompt := op.prompt ++ behind op }).map
      (Operator.reset tools') = mode.operators tools' := by
  rw [List.map_map, ← map_operators mode tools tools']
  refine List.map_congr_left fun op hop ↦ ?_
  have hbase := isBasePrompt_of_mem_operators hop
  simp only [Function.comp_apply, Operator.reset, hbase.basePrompt_append (hbehind op)]

end Topology

theorem isSections_inheritedSections (operators : List Operator) (duty : Duty) :
    IsSections (inheritedSections operators duty) := by
  unfold inheritedSections
  dsimp only
  cases hlearned : List.find? (!·.isEmpty)
      ((operators.filter (·.role.duty = duty)).map fun op ↦ learnedSections op.prompt) with
  | none => exact .inl rfl
  | some sections =>
    obtain ⟨op, -, rfl⟩ := List.mem_map.mp (List.mem_of_find?_eq_some hlearned)
    exact isSections_learnedSections op.prompt

namespace Parts

/-- Wires and operators as the topology mode has them, but for tools and learned sections. -/
structure Conforms (parts : Parts) : Prop where
  edges : parts.edges = wire parts.topology parts.operators
  operators : ∀ tools,
    parts.operators.map (Operator.reset tools) = parts.topology.operators tools
  prompts : ∀ op ∈ parts.operators, op.prompt = basePrompt op.prompt ++ learnedSections op.prompt
  tools_nodup : ∀ op ∈ parts.operators, op.tools.Nodup

variable {parts : Parts}

theorem conforms_of_operators (tools : List String) (behind : Operator → String)
    (htools : tools.Nodup) (hbehind : ∀ op, IsSections (behind op))
    (hoperators : parts.operators = (parts.topology.operators tools).map fun op ↦
      { op with prompt := op.prompt ++ behind op })
    (hedges : parts.edges = wire parts.topology parts.operators) : parts.Conforms := by
  refine ⟨hedges, ?_, ?_, ?_⟩
  · intro tools'
    rw [hoperators, parts.topology.map_reset_operators hbehind]
  · rw [hoperators, List.forall_mem_map]
    intro op hop
    have hbase := Topology.isBasePrompt_of_mem_operators hop
    dsimp only
    rw [hbase.basePrompt_append (hbehind op), hbase.learnedSections_append (hbehind op)]
  · rw [hoperators, List.forall_mem_map]
    intro op hop
    rwa [← Topology.tools_of_mem_operators hop] at htools

theorem conforms_initialParts (id appName task : String) {ranked : List Tool}
    (h : (ranked.map (·.id)).Nodup) (mode : Topology) :
    (Blueprint.initialParts id appName task ranked mode).Conforms := by
  refine conforms_of_operators ((ranked.take Blueprint.seedToolCount).map (·.id)) (fun _ ↦ "") ?_
    (fun _ ↦ .inl rfl) ?_ rfl
  · exact h.sublist ((List.take_sublist _ _).map _)
  · simp [Blueprint.initialParts]

theorem conforms_of_initial {id appName task : String} {ranked : List Tool} {mode : Topology}
    {root : Blueprint} (h : Blueprint.initial id appName task ranked mode = .ok root) :
    root.parts.Conforms := by
  have hranked := root.parts_sound.tools_nodup
  rw [Blueprint.parts_of_ofParts h] at hranked ⊢
  exact conforms_initialParts id appName task hranked mode

namespace Conforms

variable (h : parts.Conforms)
include h

theorem derived (parentId childId : String) (mutation : Mutation) :
    (parts.derived parentId childId mutation).Conforms :=
  ⟨h.edges, h.operators, h.prompts, h.tools_nodup⟩

theorem of_operators {parts' : Parts} (htopology : parts'.topology = parts.topology)
    (hedges : parts'.edges = parts.edges)
    (hreset : ∀ tools, parts'.operators.map (Operator.reset tools) =
      parts.operators.map (Operator.reset tools))
    (hprompts : ∀ op ∈ parts'.operators,
      op.prompt = basePrompt op.prompt ++ learnedSections op.prompt)
    (htools : ∀ op ∈ parts'.operators, op.tools.Nodup) : parts'.Conforms := by
  have hnames : parts.operators.map (·.name) = parts'.operators.map (·.name) := by
    have hmap := congrArg (List.map (·.name)) (hreset [])
    simpa [Function.comp_def, Operator.reset] using hmap.symm
  refine ⟨?_, ?_, hprompts, htools⟩
  · rw [hedges, h.edges, htopology, wire_congr hnames]
  · intro tools
    rw [hreset, h.operators, htopology]

theorem changed {catalog : List Tool} {task : String} {mutation : Mutation} {changed : Parts}
    (hchanged : parts.Changed catalog task mutation changed) (hsound : parts.Sound) :
    changed.Conforms := by
  cases hchanged with
  | @promptRevision revisedOp _ _ target revised =>
    have hop := List.mem_of_getElem? target
    refine h.of_operators rfl rfl ?_ ?_ ?_
    · intro tools
      refine map_set_of_eq target ?_
      simp only [Operator.reset, revised.basePrompt_eq]
    · intro p hp
      obtain hp | rfl := List.mem_or_eq_of_mem_set hp
      · exact h.prompts p hp
      · exact revised.eq_append (h.prompts _ hop)
    · intro p hp
      obtain hp | rfl := List.mem_or_eq_of_mem_set hp
      · exact h.tools_nodup p hp
      · exact h.tools_nodup revisedOp hop
  | @toolAdd tool _ known absent target =>
    refine h.of_operators rfl rfl ?_ ?_ ?_
    · intro tools
      exact map_modify_of_forall (by intro op; rfl) _ _
    · intro p hp
      obtain ⟨op, hop, rfl | rfl⟩ := exists_of_mem_modify hp
      · exact h.prompts _ hop
      · exact h.prompts op hop
    · intro p hp
      obtain ⟨op, hop, rfl | rfl⟩ := exists_of_mem_modify hp
      · exact h.tools_nodup _ hop
      · have hnew : tool.id ∉ op.tools := fun hid ↦ absent (hsound.tools_known op hop _ hid)
        simpa using (h.tools_nodup op hop).concat hnew
  | toolRemove =>
    refine h.of_operators rfl rfl ?_ ?_ ?_
    · intro tools
      simp only [withoutTool, List.map_map]
      rfl
    · exact List.forall_mem_map.mpr h.prompts
    · exact List.forall_mem_map.mpr fun op hop ↦ (h.tools_nodup op hop).filter _
  | toolNoop => exact h
  | topologySwitch =>
    exact conforms_of_operators parts.boundTools
      (fun op ↦ inheritedSections parts.operators op.role.duty)
      (hsound.tools_nodup.filter _) (fun op ↦ isSections_inheritedSections _ _) rfl rfl

end Conforms

end Parts

namespace SearchProblem

variable {problem : SearchProblem α} [RandomSource σ]

/-- In a run from an initial blueprint, every blueprint has the wires of its topology mode and, in
order, the operators of the mode: names, roles, output schemas and the bases of prompts are those of
the mode, and only sections stand behind the bases. No operator has a tool twice or one that is not
in the tool set. -/
theorem run_conforms {id appName task : String} {ranked : List Tool} {mode : Topology}
    {root : Blueprint} (hroot : Blueprint.initial id appName task ranked mode = .ok root)
    {source : σ} {history : History} {outcome : SearchOutcome α σ}
    (h : problem.run root source history = .ok outcome) :
    ∀ node ∈ outcome.final.tree.nodes,
      let parts := node.blueprint.parts
      parts.edges = wire parts.topology parts.operators ∧
      (∀ tools, parts.operators.map (Operator.reset tools) = parts.topology.operators tools) ∧
      ∀ op ∈ parts.operators,
        op.prompt = basePrompt op.prompt ++ learnedSections op.prompt ∧ op.tools.Nodup ∧
        ∀ tool ∈ op.tools, tool ∈ parts.tools.map (·.id) := by
  intro node hnode parts
  have hgrown := (reaches_of_run h).2.grown
  have hparts := Blueprint.parts_of_ofParts hroot
  have hconforms : parts.Conforms := by
    refine hgrown.blueprint_induction (P := fun blueprint ↦ blueprint.parts.Conforms) ?_ ?_ hnode
    · have hranked := root.parts_sound.tools_nodup
      rw [hparts] at hranked ⊢
      exact Parts.conforms_initialParts id appName task hranked mode
    · rintro parent child childId mutation ⟨changed, hchanged, hchild⟩ hparent
      rw [hchild]
      exact (hparent.changed hchanged parent.parts_sound).derived _ _ _
  refine ⟨hconforms.edges, hconforms.operators, ?_⟩
  intro op hop
  exact ⟨hconforms.prompts op hop, hconforms.tools_nodup op hop,
    node.blueprint.parts_sound.tools_known op hop⟩

theorem simulatedProblem_conforms :
    ∃ root outcome, Blueprint.initial (blueprintId 0) "flowforge" "Find accounts"
        (simulatedCatalog.take 3) .plannerWorkerReviewer = .ok root ∧
      simulatedProblem.run root (ChaCha.ofSeed 0) [] = .ok outcome ∧
      ∀ node ∈ outcome.final.tree.nodes,
        node.blueprint.parts.edges =
          wire node.blueprint.parts.topology node.blueprint.parts.operators := by
  have hroot : Blueprint.initial (blueprintId 0) "flowforge" "Find accounts"
      (simulatedCatalog.take 3) .plannerWorkerReviewer = .ok simulatedRoot :=
    Blueprint.ofParts_of_sound simulatedRoot.parts_sound
  obtain ⟨outcome, houtcome, -⟩ :=
    run_reaches simulatedProblem_train_ne_nil simulatedRoot (ChaCha.ofSeed 0) []
  refine ⟨simulatedRoot, outcome, hroot, houtcome, fun node hnode ↦ ?_⟩
  exact (run_conforms hroot houtcome node hnode).1

end SearchProblem

end WorkflowSearch
