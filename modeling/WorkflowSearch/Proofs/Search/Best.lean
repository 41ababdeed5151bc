import WorkflowSearch.Proofs.Scalar.Exact
import WorkflowSearch.Fixture
import WorkflowSearch.Judge.Lexical
import WorkflowSearch.Proofs.Search.Executions
import WorkflowSearch.Random.ChaCha

namespace WorkflowSearch

variable {α σ : Type}

def SearchConfig.nodeScore [Scalar α] (config : SearchConfig α) (node : Node α) : α :=
  config.selectionScore node.train node.validation

/-- The best selection score after some entries; before the first it is that of the root. -/
def bestScoreAfter (rootScore : α) (entries : List (TraceEntry α)) : α :=
  (entries.getLast?.map (·.bestSelectionScore)).getD rootScore

def bestNodeAfter (entries : List (TraceEntry α)) : ℕ :=
  ((entries.filter (·.becameBest)).getLast?.map (·.childNode)).getD 0

theorem bestScoreAfter_concat (rootScore : α) (entries : List (TraceEntry α))
    (entry : TraceEntry α) :
    bestScoreAfter rootScore (entries ++ [entry]) = entry.bestSelectionScore := by
  simp [bestScoreAfter]

theorem bestNodeAfter_concat (entries : List (TraceEntry α)) (entry : TraceEntry α) :
    bestNodeAfter (entries ++ [entry]) =
      if entry.becameBest then entry.childNode else bestNodeAfter entries := by
  by_cases h : entry.becameBest
  · simp [bestNodeAfter, List.filter_append, h]
  · simp [bestNodeAfter, List.filter_append, h]

namespace TraceEntry.Compares

theorem becameBest_of_ne [Scalar α] {entry : TraceEntry α} {minImprovement previous : α}
    (h : entry.Compares minImprovement previous) (hne : entry.bestSelectionScore ≠ previous) :
    entry.becameBest = true := by
  by_contra hbecame
  exact hne (by rw [h.bestSelectionScore, if_neg hbecame])

variable [ExactScalar α] {entry : TraceEntry α} {minImprovement previous : α}
  (h : entry.Compares minImprovement previous)
include h

theorem becameBest_iff : entry.becameBest = true ↔ minImprovement ≤ entry.improvement := by
  rw [h.becameBest, decide_eq_true_iff]

theorem regret_pos (hbecame : ¬ entry.becameBest = true) : 0 < entry.regret := by
  have hshort := mt h.becameBest_iff.mpr hbecame
  rw [h.improvement, not_le] at hshort
  rw [h.regret, if_neg hbecame]
  linarith

theorem regret_eq_zero_iff : entry.regret = 0 ↔ entry.becameBest = true := by
  refine ⟨fun hzero ↦ ?_, fun hbecame ↦ by rw [h.regret, if_pos hbecame]⟩
  by_contra hbecame
  exact (h.regret_pos hbecame).ne' hzero

theorem regret_nonneg : 0 ≤ entry.regret := by
  by_cases hbecame : entry.becameBest = true
  · exact (h.regret_eq_zero_iff.mpr hbecame).ge
  · exact (h.regret_pos hbecame).le

theorem le_bestSelectionScore (hmin : 0 < minImprovement) :
    previous ≤ entry.bestSelectionScore := by
  rw [h.bestSelectionScore]
  by_cases hbecame : entry.becameBest = true
  · have hgain := h.becameBest_iff.mp hbecame
    rw [h.improvement] at hgain
    rw [if_pos hbecame]
    linarith
  · rw [if_neg hbecame]

end TraceEntry.Compares

namespace SearchProblem

section Tracking

variable [Scalar α] (problem : SearchProblem α)

structure Logged (root : Node α) (nodes : List (Node α)) (previous : List (TraceEntry α))
    (entry : TraceEntry α) : Prop where
  child : ∃ child, nodes[entry.childNode]? = some child ∧
    entry.selectionScore = problem.config.nodeScore child
  compares : entry.Compares problem.config.minImprovement
    (bestScoreAfter (problem.config.nodeScore root) previous)

/-- The best node and score are those of the log, and the score is that of the node. -/
structure BestTracked (root : Node α) (state : SearchState α σ) : Prop where
  rooted : state.tree.created.head? = some root
  logged : ∀ previous entry later, state.traces = previous ++ entry :: later →
    problem.Logged root state.tree.created previous entry
  bestNode : state.bestNode = bestNodeAfter state.traces
  bestSelection : state.bestSelection =
    bestScoreAfter (problem.config.nodeScore root) state.traces
  best : ∃ node, state.tree.created[state.bestNode]? = some node ∧
    state.bestSelection = problem.config.nodeScore node

variable {problem}

theorem Seeded.bestTracked {root : Blueprint} {history : History} {state : SearchState α σ}
    {node : Node α} (h : problem.Seeded root history state node) :
    problem.BestTracked node state := by
  refine ⟨?_, ?_, ?_, ?_, node, ?_, h.bestSelection⟩
  · rw [h.created, List.head?_cons]
  · intro previous entry later htraces
    rw [h.traces] at htraces
    simp at htraces
  · rw [h.traces, h.bestNode]
    rfl
  · rw [h.traces, h.bestSelection]
    rfl
  · rw [h.created, h.bestNode]
    rfl

theorem Logged.mono {root : Node α} {nodes : List (Node α)} {previous : List (TraceEntry α)}
    {entry : TraceEntry α} (h : problem.Logged root nodes previous entry) (more : List (Node α)) :
    problem.Logged root (nodes ++ more) previous entry := by
  obtain ⟨child, hchild, hscore⟩ := h.child
  have hlt := (List.getElem?_eq_some_iff.mp hchild).1
  exact ⟨⟨child, by rwa [List.getElem?_append_left hlt], hscore⟩, h.compares⟩

theorem BestTracked.recorded {root : Node α} {before after : SearchState α σ} {child : Node α}
    {entry : TraceEntry α} (h : problem.BestTracked root before)
    (hrecorded : problem.Recorded before after child entry) : problem.BestTracked root after := by
  have hchild : after.tree.created[entry.childNode]? = some child := by
    rw [hrecorded.created, hrecorded.childNode, hrecorded.id_eq, ← Tree.length_created]
    exact List.getElem?_concat_length
  refine ⟨?_, ?_, ?_, ?_, ?_⟩
  · rw [hrecorded.created, List.head?_append, h.rooted]
    rfl
  · intro previous entry' later htraces
    rw [hrecorded.traces] at htraces
    obtain ⟨rfl, rfl⟩ | ⟨later, htraces⟩ := append_cons_eq_concat htraces
    · exact ⟨⟨child, hchild, hrecorded.score⟩, h.bestSelection ▸ hrecorded.compares⟩
    · rw [hrecorded.created]
      exact (h.logged previous entry' later htraces).mono [child]
  · rw [hrecorded.bestNode, hrecorded.traces, bestNodeAfter_concat, h.bestNode]
  · rw [hrecorded.bestSelection, hrecorded.traces, bestScoreAfter_concat]
  · rw [hrecorded.bestNode, hrecorded.bestSelection, hrecorded.compares.bestSelectionScore]
    by_cases hbest : entry.becameBest
    · simp only [if_pos hbest]
      exact ⟨child, hchild, hrecorded.score⟩
    · simp only [if_neg hbest]
      obtain ⟨node, hnode, hscore⟩ := h.best
      have hlt := (List.getElem?_eq_some_iff.mp hnode).1
      exact ⟨node, by rwa [hrecorded.created, List.getElem?_append_left hlt], hscore⟩

variable [RandomSource σ]

theorem exists_bestTracked_of_run {root : Blueprint} {source : σ} {history : History}
    {outcome : SearchOutcome α σ} (h : problem.run root source history = .ok outcome) :
    ∃ node, problem.BestTracked node outcome.final := by
  obtain ⟨node, hseeded⟩ := problem.exists_seeded root source history
  exact ⟨node, (reaches_of_run h).2.induction (fun hrecorded h ↦ h.recorded hrecorded)
    hseeded.bestTracked⟩

theorem exists_best_of_run {root : Blueprint} {source : σ} {history : History}
    {outcome : SearchOutcome α σ} (h : problem.run root source history = .ok outcome) :
    ∃ best, outcome.best? = some best := by
  obtain ⟨_, htracked⟩ := exists_bestTracked_of_run h
  obtain ⟨node, hnode, -⟩ := htracked.best
  rw [Tree.get?_created, Option.map_eq_some_iff] at hnode
  obtain ⟨best, hbest, -⟩ := hnode
  exact ⟨best, hbest⟩

end Tracking

section Exact

variable [ExactScalar α] {problem : SearchProblem α}

/-- No node lies above the best score by the least improvement. -/
def NearlyBest (problem : SearchProblem α) (state : SearchState α σ) : Prop :=
  ∀ node ∈ state.tree.created,
    problem.config.nodeScore node < state.bestSelection + problem.config.minImprovement

theorem NearlyBest.recorded (hmin : 0 < problem.config.minImprovement)
    {before after : SearchState α σ} {child : Node α} {entry : TraceEntry α}
    (h : problem.NearlyBest before) (hrecorded : problem.Recorded before after child entry) :
    problem.NearlyBest after := by
  have hcompares := hrecorded.compares
  have hscore : entry.selectionScore = problem.config.nodeScore child := hrecorded.score
  rw [NearlyBest, hrecorded.created, hrecorded.bestSelection, hcompares.bestSelectionScore,
    List.forall_mem_append, List.forall_mem_singleton, ← hscore]
  by_cases hbest : problem.config.minImprovement ≤ entry.improvement
  · have hbecame : entry.becameBest = true := by rw [hcompares.becameBest, decide_eq_true hbest]
    rw [hcompares.improvement] at hbest
    rw [if_pos hbecame]
    refine ⟨fun node hnode ↦ ?_, by linarith⟩
    have hnode := h node hnode
    linarith
  · have hbecame : ¬ entry.becameBest = true := by
      rw [hcompares.becameBest]
      simpa using hbest
    rw [hcompares.improvement] at hbest
    rw [if_neg hbecame]
    exact ⟨h, by linarith⟩

theorem nearlyBest_of_run [RandomSource σ] (hmin : 0 < problem.config.minImprovement)
    {root : Blueprint} {source : σ} {history : History} {outcome : SearchOutcome α σ}
    (h : problem.run root source history = .ok outcome) : problem.NearlyBest outcome.final := by
  obtain ⟨node, hseeded⟩ := problem.exists_seeded root source history
  refine (reaches_of_run h).2.induction (fun hrecorded h ↦ h.recorded hmin hrecorded) ?_
  rw [NearlyBest, hseeded.created, List.forall_mem_singleton, hseeded.bestSelection]
  exact lt_add_of_pos_right _ hmin

/-- Over exact numbers a run keeps track of its best node. An entry becomes the best exactly when it
improves on the best score before it by enough, and has no regret exactly then; the best score only
grows; and at the end no node exceeds it by the least improvement. -/
theorem run_tracks_best [RandomSource σ] (hmin : 0 < problem.config.minImprovement)
    {root : Blueprint} {source : σ} {history : History} {outcome : SearchOutcome α σ}
    (h : problem.run root source history = .ok outcome) :
    let score := problem.config.nodeScore
    let minImprovement := problem.config.minImprovement
    let final := outcome.final
    ∃ rootNode best, final.tree.root? = some rootNode ∧ outcome.best? = some best ∧
      (∀ previous entry later, final.traces = previous ++ entry :: later →
        let before := bestScoreAfter (score rootNode) previous
        (∃ child, final.tree.get? entry.childNode = some child ∧
          entry.selectionScore = score child) ∧
        entry.improvement = entry.selectionScore - before ∧
        (entry.becameBest = true ↔ minImprovement ≤ entry.improvement) ∧
        0 ≤ entry.regret ∧ (entry.regret = 0 ↔ entry.becameBest = true) ∧
        before ≤ entry.bestSelectionScore ∧
        (entry.bestSelectionScore ≠ before → entry.becameBest = true)) ∧
      final.bestNode = bestNodeAfter final.traces ∧ final.bestSelection = score best ∧
      ∀ node ∈ final.tree.nodes, score node < final.bestSelection + minImprovement := by
  intro score minImprovement final
  obtain ⟨root', htracked⟩ := exists_bestTracked_of_run h
  obtain ⟨node, hnode, hbest⟩ := htracked.best
  rw [Tree.get?_created, Option.map_eq_some_iff] at hnode
  obtain ⟨best, hget, rfl⟩ := hnode
  have hrooted := htracked.rooted
  rw [Tree.head?_created, Option.map_eq_some_iff] at hrooted
  obtain ⟨rootNode, hroot, rfl⟩ := hrooted
  refine ⟨rootNode, best, hroot, hget, ?_, htracked.bestNode, hbest, ?_⟩
  · intro previous entry later htraces before
    obtain ⟨⟨child, hchild, hscore⟩, hcompares⟩ := htracked.logged previous entry later htraces
    rw [Tree.get?_created, Option.map_eq_some_iff] at hchild
    obtain ⟨child, hchild, rfl⟩ := hchild
    exact ⟨⟨child, hchild, hscore⟩, hcompares.improvement, hcompares.becameBest_iff,
      hcompares.regret_nonneg, hcompares.regret_eq_zero_iff, hcompares.le_bestSelectionScore hmin,
      hcompares.becameBest_of_ne⟩
  · intro node hnode
    exact nearlyBest_of_run hmin h node.asCreated (List.mem_map_of_mem hnode)

end Exact

end SearchProblem

def simulatedEvaluator : Evaluator ℚ where
  service := .simulated simulatedSchema simulatedCatalog
  ensemble := ⟨[.rule, .heuristic], .default⟩
  config := .default
  objective := .default
  lowScoreThreshold := 0.6

def simulatedRoot : Blueprint :=
  ⟨Blueprint.initialParts (blueprintId 0) "flowforge" "Find accounts" (simulatedCatalog.take 3)
    .plannerWorkerReviewer, by decide⟩

def simulatedProblem : SearchProblem ℚ :=
  .ofDataset simulatedEvaluator .default "Find accounts" (fixtureDataset 5) [.query]
    simulatedCatalog .never

theorem simulatedProblem_train_ne_nil : simulatedProblem.train ≠ [] := by
  rw [simulatedProblem, SearchProblem.train_ofDataset]
  decide +kernel

theorem simulatedProblem_valid : simulatedProblem.config.validate = .ok () :=
  eq_ok_of_isOk (by decide +kernel)

theorem simulatedProblem_families_ne_nil : simulatedProblem.families ≠ [] := by
  decide +kernel

theorem simulatedProblem_tracks_best :
    ∃ outcome, simulatedProblem.run simulatedRoot (ChaCha.ofSeed 0) [] = .ok outcome ∧
      ∃ best, outcome.best? = some best ∧
        outcome.final.bestNode = bestNodeAfter outcome.final.traces ∧
        ∀ node ∈ outcome.final.tree.nodes, simulatedProblem.config.nodeScore node <
          simulatedProblem.config.nodeScore best + simulatedProblem.config.minImprovement := by
  have hmin : 0 < simulatedProblem.config.minImprovement := by decide +kernel
  obtain ⟨outcome, houtcome, -⟩ :=
    SearchProblem.run_reaches simulatedProblem_train_ne_nil simulatedRoot (ChaCha.ofSeed 0) []
  obtain ⟨-, best, -, hbest, -, hnode, hscore, hnear⟩ :=
    SearchProblem.run_tracks_best hmin houtcome
  exact ⟨outcome, houtcome, best, hbest, hnode, fun node hmem ↦ hscore ▸ hnear node hmem⟩

end WorkflowSearch
