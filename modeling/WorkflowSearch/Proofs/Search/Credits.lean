import WorkflowSearch.Proofs.Search.Log
import WorkflowSearch.Proofs.Search.ToolGains

namespace WorkflowSearch

variable {α σ : Type} [Scalar α]

def Mutation.tool? : Mutation → Option String
  | .toolAdd tool _ | .toolRemove tool => some tool
  | .promptRevision .. | .toolNoop | .topologySwitch .. => none

/-- A change of the train objective speaks for an added tool and against a removed one. -/
def Mutation.credit? (improvement : α) : Mutation → Option (String × α)
  | .toolAdd tool _ => some (tool, improvement)
  | .toolRemove tool => some (tool, -improvement)
  | .promptRevision .. | .toolNoop | .topologySwitch .. => none

theorem Mutation.map_fst_credit? (improvement : α) (mutation : Mutation) :
    (mutation.credit? improvement).map (·.1) = mutation.tool? := by
  cases mutation <;> rfl

def TraceEntry.trainGain (nodes : List (Node α)) (entry : TraceEntry α) : α :=
  match nodes[entry.selectedNode]?, nodes[entry.childNode]? with
  | some parent, some child => child.train.objective - parent.train.objective
  | _, _ => 0

def toolCredits (nodes : List (Node α)) (entries : List (TraceEntry α)) : List (String × α) :=
  entries.filterMap fun entry ↦ entry.mutation.credit? (entry.trainGain nodes)

theorem trainGain_created (tree : Tree α) (entry : TraceEntry α) :
    entry.trainGain tree.created = entry.trainGain tree.nodes := by
  unfold TraceEntry.trainGain
  rw [Tree.get?_created, Tree.get?_created]
  unfold Tree.get?
  cases tree.nodes[entry.selectedNode]? with
  | none => rfl
  | some parent => cases tree.nodes[entry.childNode]? <;> rfl

theorem toolCredits_created (tree : Tree α) (entries : List (TraceEntry α)) :
    toolCredits tree.created entries = toolCredits tree.nodes entries := by
  simp only [toolCredits, trainGain_created]

theorem map_fst_toolCredits (nodes : List (Node α)) (entries : List (TraceEntry α)) :
    (toolCredits nodes entries).map (·.1) = entries.filterMap (·.mutation.tool?) := by
  simp only [toolCredits, List.map_filterMap, Mutation.map_fst_credit?]

theorem countP_toolCredits (nodes : List (Node α)) (entries : List (TraceEntry α)) (tool : String) :
    (toolCredits nodes entries).countP (·.1 = tool) =
      entries.countP (·.mutation.tool? = some tool) := by
  have hcount := List.countP_map (p := fun other ↦ decide (other = tool)) (f := Prod.fst)
    (l := toolCredits nodes entries)
  rw [map_fst_toolCredits, List.countP_filterMap] at hcount
  refine hcount.symm.trans (List.countP_congr fun entry _ ↦ ?_)
  cases entry.mutation.tool? <;> simp

theorem creditTool_replay (decay improvement : α) (credits : List (String × α))
    (mutation : Mutation) :
    creditTool (.replay decay credits) mutation improvement decay =
      .replay decay (credits ++ (mutation.credit? improvement).toList) := by
  cases mutation with
  | toolAdd tool _ => exact (ToolGains.replay_concat decay credits (tool, improvement)).symm
  | toolRemove tool => exact (ToolGains.replay_concat decay credits (tool, -improvement)).symm
  | promptRevision | toolNoop | topologySwitch => exact congrArg _ (List.append_nil credits).symm

namespace SearchProblem

variable (problem : SearchProblem α)

def gainsAfter (nodes : List (Node α)) (entries : List (TraceEntry α)) : ToolGains α :=
  if problem.config.enableToolHistoricalGain then
    .replay problem.config.toolGainDecay (toolCredits nodes entries)
  else []

/-- The gains are those of the log, and every removal is made by the gains of the entries before. -/
structure GainsFaithful (state : SearchState α σ) : Prop where
  gains : state.context.gains = problem.gainsAfter state.tree.created state.traces
  removed : ∀ {i entry tool}, state.traces[i]? = some entry → entry.mutation = .toolRemove tool →
    ∃ parent, state.tree.created[entry.selectedNode]? = some parent ∧
      let gains := problem.gainsAfter state.tree.created (state.traces.take i)
      problem.mutator.RemovesWeakest parent.blueprint gains tool ∨
        problem.mutator.RemovesLast parent.blueprint gains tool

theorem gainsAfter_created (tree : Tree α) (entries : List (TraceEntry α)) :
    problem.gainsAfter tree.created entries = problem.gainsAfter tree.nodes entries := by
  rw [gainsAfter, gainsAfter, toolCredits_created]

variable {problem}

theorem gainsAfter_concat (nodes : List (Node α)) (entries : List (TraceEntry α))
    (entry : TraceEntry α) (context : SearchContext α σ)
    (h : context.gains = problem.gainsAfter nodes entries) :
    (problem.credited context entry.mutation (entry.trainGain nodes)).gains =
      problem.gainsAfter nodes (entries ++ [entry]) := by
  unfold credited gainsAfter at *
  dsimp only
  rw [h]
  split
  · rw [creditTool_replay, toolCredits, toolCredits, List.filterMap_append]
    cases hcredit : entry.mutation.credit? (entry.trainGain nodes) <;> simp [hcredit]
  · rfl

theorem gainsAfter_append {nodes : List (Node α)} {entries : List (TraceEntry α)}
    (h : ∀ entry ∈ entries, entry.selectedNode < nodes.length ∧ entry.childNode < nodes.length)
    (more : List (Node α)) :
    problem.gainsAfter (nodes ++ more) entries = problem.gainsAfter nodes entries := by
  have hcredits : toolCredits (nodes ++ more) entries = toolCredits nodes entries := by
    refine List.filterMap_congr fun entry hentry ↦ ?_
    obtain ⟨hselected, hchild⟩ := h entry hentry
    simp only [TraceEntry.trainGain, List.getElem?_append_left hselected,
      List.getElem?_append_left hchild]
  rw [gainsAfter, gainsAfter, hcredits]

theorem LogFaithful.nodes_lt {rootNode : Node α} {state : SearchState α σ}
    (h : problem.LogFaithful rootNode state) {entry : TraceEntry α} (hentry : entry ∈ state.traces) :
    entry.selectedNode < state.tree.created.length ∧
      entry.childNode < state.tree.created.length := by
  obtain ⟨i, hi⟩ := List.getElem?_of_mem hentry
  have hdescribes := h.describes hi
  obtain ⟨parent, child, hparent, hchild, -⟩ := hdescribes.facts
  rw [← hdescribes.childNode] at hchild
  exact ⟨(List.getElem?_eq_some_iff.mp hparent).1, (List.getElem?_eq_some_iff.mp hchild).1⟩

theorem Expanded.trainGain_eq {round expansion : ℕ} {before after : SearchState α σ}
    {parent child : Node α} {entry : TraceEntry α}
    (h : problem.Expanded round expansion before after parent child entry)
    (hparent : before.tree.get? parent.id = some parent) :
    entry.trainGain after.tree.created = child.train.objective - parent.train.objective := by
  have hchild : after.tree.created[entry.childNode]? = some child := by
    rw [h.childNode, h.id_eq, h.created, ← Tree.length_created, List.getElem?_concat_length]
  rw [TraceEntry.trainGain, h.created_parent hparent, hchild]
  rfl

theorem Seeded.gainsFaithful {root : Blueprint} {source : σ} {history : History} {node : Node α}
    (h : problem.Seeded root history (problem.seeded root source history) node) :
    problem.GainsFaithful (problem.seeded root source history) := by
  refine ⟨?_, ?_⟩
  · rw [h.traces, gainsAfter, toolCredits, List.filterMap_nil, ToolGains.replay, List.foldl_nil,
      ite_self]
    rfl
  · intro i entry tool hentry
    rw [h.traces] at hentry
    cases hentry

theorem GainsFaithful.expanded {rootNode parent child : Node α} {round expansion : ℕ}
    {before after : SearchState α σ} {entry : TraceEntry α} (h : problem.GainsFaithful before)
    (hlog : problem.LogFaithful rootNode before)
    (hexpanded : problem.Expanded round expansion before after parent child entry)
    (happlied : problem.Applied before after parent child entry)
    (hparent : before.tree.get? parent.id = some parent) : problem.GainsFaithful after := by
  have hgrown {entries : List (TraceEntry α)} (hentries : entries ⊆ before.traces) :
      problem.gainsAfter after.tree.created entries =
        problem.gainsAfter before.tree.created entries := by
    rw [hexpanded.created]
    exact gainsAfter_append (fun entry hentry ↦ hlog.nodes_lt (hentries hentry)) [child]
  obtain @⟨family, source, context, hderived, hcontext⟩ := happlied
  have hgains : context.gains = problem.gainsAfter after.tree.created before.traces := by
    have hkept := problem.gains_deriveChild family parent { before.context with source }
    rw [hderived] at hkept
    rw [hkept, hgrown (List.Subset.refl _), ← h.gains]
  refine ⟨?_, ?_⟩
  · rw [hcontext, ← hexpanded.trainGain_eq hparent, gainsAfter_concat _ _ _ _ hgains,
      hexpanded.traces]
  · intro i last tool hlast htool
    rw [hexpanded.traces] at hlast ⊢
    obtain ⟨hlt, hentry⟩ | ⟨rfl, rfl⟩ := getElem?_concat_cases hlast
    · obtain ⟨other, hother, hremoved⟩ := h.removed hentry htool
      have hotherlt := (List.getElem?_eq_some_iff.mp hother).1
      refine ⟨other, ?_, ?_⟩
      · rw [hexpanded.created, List.getElem?_append_left hotherlt, hother]
      · rwa [List.take_append_of_le_length hlt.le, hgrown (List.take_subset i before.traces)]
    · have hremoved : (problem.deriveChild family parent { before.context with source }).1 =
          .ok (child.blueprint, .toolRemove tool) := by
        rw [hderived, htool]
      have hchange := problem.mutator.toolChange_of_apply parent.blueprint hremoved
      refine ⟨parent.asCreated, hexpanded.created_parent hparent, ?_⟩
      rw [List.take_left, hgrown (List.Subset.refl _), ← h.gains]
      exact problem.mutator.removes_of_toolChange parent.blueprint hchange

variable [RandomSource σ]

/-- The gains of a run replay from its log. Each entry that adds a tool credits it with the train
objective of the child less that of the parent, and each that removes it with the opposite; the
final gains are these credits in order, in maps of the same tools that count the entries. Without
tracking there are none. A tool is removed for its gain only after enough entries of it; any other
removal is of the tool ranked last, when the catalog has none to add. -/
theorem run_gains_replay {root : Blueprint} {source : σ} {history : History}
    {outcome : SearchOutcome α σ} (h : problem.run root source history = .ok outcome) :
    let config := problem.config
    let tree := outcome.final.tree
    let traces := outcome.final.traces
    let gains := outcome.final.context.gains
    (∀ entry ∈ traces, ∃ parent child, tree.get? entry.selectedNode = some parent ∧
      tree.get? entry.childNode = some child ∧ child.parent = some parent.id ∧
      child.mutation = some entry.mutation ∧
      entry.trainGain tree.nodes = child.train.objective - parent.train.objective) ∧
    (config.enableToolHistoricalGain = true →
      let credits := toolCredits tree.nodes traces
      gains = .replay config.toolGainDecay credits ∧ gains.Sorted ∧
      gains.maps = .replay config.toolGainDecay credits ∧
      ∀ tool, gains.observations tool = traces.countP (·.mutation.tool? = some tool) ∧
        ((gains.maps.averages tool).isSome = true ↔
          ∃ entry ∈ traces, entry.mutation.tool? = some tool) ∧
        ((gains.maps.counts tool).isSome = true ↔
          ∃ entry ∈ traces, entry.mutation.tool? = some tool)) ∧
    (config.enableToolHistoricalGain = false → gains = []) ∧
    ∀ i entry tool, traces[i]? = some entry → entry.mutation = .toolRemove tool →
      let before := traces.take i
      let gains := problem.gainsAfter tree.nodes before
      ∃ parent, tree.get? entry.selectedNode = some parent ∧
        (problem.mutator.RemovesWeakest parent.blueprint gains tool ∧
            config.toolRemovalMinObservations ≤ before.countP (·.mutation.tool? = some tool) ∧
            gains.gain tool ≤ config.toolRemovalThreshold ∨
          problem.mutator.RemovesLast parent.blueprint gains tool) := by
  intro config tree traces gains
  obtain ⟨-, hreaches⟩ := reaches_of_run h
  obtain ⟨rootNode, hseeded⟩ := problem.exists_seeded root source history
  obtain ⟨hlog, hfaithful⟩ := hreaches.grown_applied_induction
    (P := fun state ↦ problem.LogFaithful rootNode state ∧ problem.GainsFaithful state)
    ⟨hseeded.logFaithful, hseeded.gainsFaithful⟩
    fun _ hparent hexpanded happlied hstate ↦ ⟨hstate.1.expanded hexpanded hparent,
      hstate.2.expanded hstate.1 hexpanded happlied hparent⟩
  have hgains : gains = problem.gainsAfter tree.nodes traces := by
    rw [← gainsAfter_created]
    exact hfaithful.gains
  refine ⟨?_, ?_, ?_, ?_⟩
  · intro entry hentry
    obtain ⟨i, hi⟩ := List.getElem?_of_mem hentry
    obtain ⟨parent, child, hparent, hchild, hdescribes, -⟩ := hlog.exists_nodes hi
    rw [← (hlog.describes hi).childNode] at hchild
    refine ⟨parent, child, hparent, hchild, hdescribes.parent, hdescribes.mutation, ?_⟩
    have hparent : tree.nodes[entry.selectedNode]? = some parent := hparent
    have hchild : tree.nodes[entry.childNode]? = some child := hchild
    rw [TraceEntry.trainGain, hparent, hchild]
  · intro htracked credits
    have hreplay : gains = .replay config.toolGainDecay credits := by
      rw [hgains, gainsAfter, if_pos htracked]
    have hmem (tool : String) : tool ∈ credits.map (·.1) ↔
        ∃ entry ∈ traces, entry.mutation.tool? = some tool := by
      rw [map_fst_toolCredits, List.mem_filterMap]
    rw [hreplay, ToolGains.maps_replay]
    refine ⟨rfl, ToolGains.sorted_replay .., rfl, fun tool ↦ ⟨?_, ?_, ?_⟩⟩
    · rw [ToolGains.observations_replay, countP_toolCredits]
    · exact (GainMaps.averages_isSome_replay ..).trans (hmem tool)
    · exact (GainMaps.counts_isSome_replay ..).trans (hmem tool)
  · intro hidle
    rw [hgains, gainsAfter, if_neg (by simpa using hidle)]
  · intro i entry tool hentry htool before gains
    obtain ⟨parent', hparent, hremoved⟩ := hfaithful.removed hentry htool
    rw [Tree.get?_created, Option.map_eq_some_iff] at hparent
    obtain ⟨parent, hparent, rfl⟩ := hparent
    rw [gainsAfter_created] at hremoved
    refine ⟨parent, hparent, hremoved.imp_left fun hweakest ↦ ⟨hweakest, ?_⟩⟩
    obtain ⟨-, hobserved, hlow⟩ := Mutator.weak_of_weakestTool? hweakest.weakest
    have hreplay : gains = .replay config.toolGainDecay (toolCredits tree.nodes before) :=
      if_pos hweakest.tracked
    rw [hreplay, ToolGains.observations_replay, countP_toolCredits] at hobserved
    exact ⟨hobserved, hlow⟩

theorem simulatedProblem_gains_replay :
    ∃ outcome, simulatedProblem.run simulatedRoot (ChaCha.ofSeed 0) [] = .ok outcome ∧
      outcome.final.context.gains = .replay simulatedProblem.config.toolGainDecay
        (toolCredits outcome.final.tree.nodes outcome.final.traces) ∧
      ∀ tool, outcome.final.context.gains.observations tool =
        outcome.final.traces.countP (·.mutation.tool? = some tool) := by
  obtain ⟨outcome, houtcome, -⟩ :=
    run_reaches simulatedProblem_train_ne_nil simulatedRoot (ChaCha.ofSeed 0) []
  obtain ⟨-, htracked, -, -⟩ := run_gains_replay houtcome
  obtain ⟨hgains, -, -, htools⟩ := htracked (by decide)
  exact ⟨outcome, houtcome, hgains, fun tool ↦ (htools tool).1⟩

end SearchProblem

end WorkflowSearch
