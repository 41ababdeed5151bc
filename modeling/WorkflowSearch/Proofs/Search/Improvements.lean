import WorkflowSearch.Proofs.Config.Defaults
import WorkflowSearch.Proofs.Evaluation.Range
import WorkflowSearch.Proofs.Search.Best

namespace WorkflowSearch

namespace SearchProblem

variable {α σ : Type} [RootedScalar α]

/-- The greatest selection score that the weights of the objective allow. -/
def scoreBound (problem : SearchProblem α) : α :=
  1 + problem.config.objective.confidence

def ScoresWithin (problem : SearchProblem α) (bound : α) : Prop :=
  ∀ {blueprint : Blueprint} {before after : History} {train validation : Summary α},
    problem.evaluate blueprint before = ((train, validation), after) →
      problem.config.selectionScore train validation ≤ bound

/-- What a run keeps: all selection scores are within the bound, and the best one has grown by the
least improvement with each entry that became the best. -/
structure Climbs (problem : SearchProblem α) (bound : α) (root : Node α) (state : SearchState α σ) :
    Prop where
  rooted : state.tree.created.head? = some root
  nodes : ∀ node ∈ state.tree.created, problem.config.nodeScore node ≤ bound
  entries : ∀ entry ∈ state.traces, entry.selectionScore ≤ bound
  bestSelection : state.bestSelection ≤ bound
  gains : problem.config.nodeScore root +
    (state.traces.countP (·.becameBest) : α) * problem.config.minImprovement ≤ state.bestSelection

variable {problem : SearchProblem α} {bound : α}

theorem Seeded.climbs (hscores : problem.ScoresWithin bound) {root : Blueprint} {history : History}
    {state : SearchState α σ} {node : Node α} (h : problem.Seeded root history state node) :
    problem.Climbs bound node state where
  rooted := by rw [h.created, List.head?_cons]
  nodes := by
    rw [h.created, List.forall_mem_singleton]
    exact hscores h.evaluated
  entries := by
    rw [h.traces]
    exact List.forall_mem_nil _
  bestSelection := h.bestSelection.trans_le (hscores h.evaluated)
  gains := by
    rw [h.traces, h.bestSelection, List.countP_nil, Nat.cast_zero, zero_mul, add_zero]
    exact le_rfl

theorem Climbs.recorded (hscores : problem.ScoresWithin bound) {root : Node α}
    {before after : SearchState α σ} {child : Node α} {entry : TraceEntry α}
    (h : problem.Climbs bound root before) (hrecorded : problem.Recorded before after child entry) :
    problem.Climbs bound root after := by
  have hchild : problem.config.nodeScore child ≤ bound := hscores hrecorded.evaluated
  have hentry : entry.selectionScore ≤ bound := hrecorded.score.trans_le hchild
  have hcompares := hrecorded.compares
  refine ⟨?_, ?_, ?_, ?_, ?_⟩
  · rw [hrecorded.created, List.head?_append, h.rooted]
    rfl
  · rw [hrecorded.created, List.forall_mem_append, List.forall_mem_singleton]
    exact ⟨h.nodes, hchild⟩
  · rw [hrecorded.traces, List.forall_mem_append, List.forall_mem_singleton]
    exact ⟨h.entries, hentry⟩
  · rw [hrecorded.bestSelection, hcompares.bestSelectionScore]
    split
    · exact hentry
    · exact h.bestSelection
  · rw [hrecorded.traces, hrecorded.bestSelection, hcompares.bestSelectionScore, List.countP_append,
      List.countP_singleton]
    have hgains := h.gains
    by_cases hbest : entry.becameBest = true
    · have himprovement := hcompares.becameBest_iff.mp hbest
      rw [hcompares.improvement] at himprovement
      rw [if_pos hbest, if_pos hbest, Nat.cast_add, Nat.cast_one, add_mul, one_mul]
      linarith
    · rw [if_neg hbest, if_neg hbest, Nat.add_zero]
      exact hgains

theorem climbs_of_run [RandomSource σ] (hscores : problem.ScoresWithin bound) {root : Blueprint}
    {source : σ} {history : History} {outcome : SearchOutcome α σ}
    (h : problem.run root source history = .ok outcome) :
    ∃ node, problem.Climbs bound node outcome.final := by
  obtain ⟨node, hseeded⟩ := problem.exists_seeded root source history
  exact ⟨node, (reaches_of_run h).2.induction (fun hrecorded h ↦ h.recorded hscores hrecorded)
    (hseeded.climbs hscores)⟩

theorem exists_validation_of_evaluate {blueprint : Blueprint} {before after : History}
    {train validation : Summary α}
    (h : problem.evaluate blueprint before = ((train, validation), after)) :
    ∃ cases split history,
      validation = (problem.evaluator.evaluateCases blueprint cases split history).1 := by
  unfold evaluate at h
  dsimp only at h
  split at h
  all_goals
    obtain ⟨hsummaries, -⟩ := Prod.mk.inj h
    obtain ⟨-, hvalidation⟩ := Prod.mk.inj hsummaries
    exact ⟨_, _, _, hvalidation.symm⟩

section Configured

variable {service : Service α} {source : JudgeSource α} (hconfig : problem.config.Valid)
  (hsource : source.Sound)
  (hevaluator : Evaluator.ofConfig service source problem.config = .ok problem.evaluator)
include hconfig hsource hevaluator

theorem evaluateCases_objective_le (blueprint : Blueprint) (cases : List Case) (split : Split)
    (history : History) :
    (problem.evaluator.evaluateCases blueprint cases split history).1.objective ≤
      problem.scoreBound := by
  have hweights : problem.evaluator.objective = problem.config.objective :=
    (Evaluator.of_ofConfig hevaluator).1
  have hvalid : problem.evaluator.objective.Valid :=
    hweights ▸ (ObjectiveWeights.validate_eq_ok_iff _).mp hconfig.objective
  have hle := Evaluator.evaluateCases_objective_le
    (Evaluator.sound_of_ofConfig hconfig hsource hevaluator) hvalid blueprint cases split history
  rwa [hweights] at hle

theorem scoresWithin_of_config : problem.ScoresWithin problem.scoreBound := by
  intro blueprint before after train validation hevaluate
  obtain ⟨cases, split, history, rfl⟩ := exists_validation_of_evaluate hevaluate
  have hobjective : problem.config.objective.Valid :=
    (ObjectiveWeights.validate_eq_ok_iff _).mp hconfig.objective
  exact (hobjective.selectionScore_le _ _ _).trans
    (evaluateCases_objective_le hconfig hsource hevaluator blueprint cases split history)

end Configured

/-- With valid settings and sound judges, whatever the service replies, every summary lies in its
range and has an objective and selection scores of a full score and the weight of a full confidence
at most. So a run finds a better node no more often than the least improvement fits between the
score of the root and that bound. -/
theorem run_improves_within_bound {service : Service α} {source : JudgeSource α}
    (hconfig : problem.config.validate = .ok ()) (hsource : source.Sound)
    (hevaluator : Evaluator.ofConfig service source problem.config = .ok problem.evaluator) :
    let config := problem.config
    let bound := 1 + config.objective.confidence
    (∀ blueprint cases split history,
      let summary := (problem.evaluator.evaluateCases blueprint cases split history).1
      summary.InRange ∧ summary.objective ≤ bound ∧
        ∀ train, config.selectionScore train summary ≤ bound) ∧
    ∀ {σ : Type} [RandomSource σ] (root : Blueprint) (random : σ) (history : History)
        (outcome : SearchOutcome α σ), problem.run root random history = .ok outcome →
      let final := outcome.final
      ∃ rootNode, final.tree.root? = some rootNode ∧
        (∀ node ∈ final.tree.nodes, config.nodeScore node ≤ bound) ∧
        (∀ entry ∈ final.traces, entry.selectionScore ≤ bound) ∧ final.bestSelection ≤ bound ∧
        (final.traces.countP (·.becameBest) : α) ≤
          (bound - config.nodeScore rootNode) / config.minImprovement := by
  intro config bound
  have hvalid := (SearchConfig.validate_eq_ok_iff _).mp hconfig
  have hweights := (ObjectiveWeights.validate_eq_ok_iff _).mp hvalid.objective
  have hsound := Evaluator.sound_of_ofConfig hvalid hsource hevaluator
  refine ⟨fun blueprint cases split history ↦ ?_, fun root random history outcome h ↦ ?_⟩
  · have hobjective :=
      evaluateCases_objective_le hvalid hsource hevaluator blueprint cases split history
    exact ⟨Evaluator.evaluateCases_inRange hsound blueprint cases split history, hobjective,
      fun train ↦ (hweights.selectionScore_le _ _ _).trans hobjective⟩
  · obtain ⟨root', hclimbs⟩ :=
      climbs_of_run (scoresWithin_of_config hvalid hsource hevaluator) h
    have hrooted := hclimbs.rooted
    rw [Tree.head?_created, Option.map_eq_some_iff] at hrooted
    obtain ⟨rootNode, hroot, rfl⟩ := hrooted
    refine ⟨rootNode, hroot, fun node hnode ↦ ?_, hclimbs.entries, hclimbs.bestSelection, ?_⟩
    · exact hclimbs.nodes node.asCreated (List.mem_map_of_mem hnode)
    · have hmin : 0 < config.minImprovement := ExactScalar.isPositive_iff.mp hvalid.minImprovement
      rw [le_div_iff₀ hmin, le_sub_iff_add_le']
      exact hclimbs.gains.trans hclimbs.bestSelection

end SearchProblem

def Judge.grading {α : Type} [Scalar α] (grade : α) : Judge α :=
  ⟨.rubric, fun _ ↦ .ok (.clamped grade "graded")⟩

def judgesGrading {α : Type} [Scalar α] (grade : α) : JudgeSource α
  | .rule, _ => .ok .rule
  | .heuristic, _ => .ok .heuristic
  | .rubric, _ => .ok (.grading grade)

theorem judgesGrading_sound {α : Type} [Scalar α] (grade : α) : (judgesGrading grade).Sound := by
  intro kind config judge h
  cases kind with
  | rule =>
    obtain rfl := Except.ok.inj h
    exact ⟨rfl, Judge.rule_clamps⟩
  | heuristic =>
    obtain rfl := Except.ok.inj h
    exact ⟨rfl, Judge.heuristic_clamps⟩
  | rubric =>
    obtain rfl := Except.ok.inj h
    refine ⟨rfl, fun request score hscore ↦ ?_⟩
    obtain rfl := Except.ok.inj hscore
    exact ⟨grade, rfl⟩

noncomputable def gradedConfig : SearchConfig ℝ :=
  { SearchConfig.default with evaluation.judges := JudgeKind.all }

noncomputable def gradedEvaluator (grade : ℝ) : Evaluator ℝ where
  service := .simulated simulatedSchema simulatedCatalog
  ensemble := ⟨[.rule, .heuristic, .grading grade], .default⟩
  config := gradedConfig.evaluation
  objective := .default
  lowScoreThreshold := gradedConfig.lowScoreThreshold

noncomputable def gradedProblem (grade : ℝ) : SearchProblem ℝ :=
  .ofDataset (gradedEvaluator grade) gradedConfig "Find accounts" (fixtureDataset 5) [.query]
    simulatedCatalog .never

theorem gradedProblem_train_ne_nil (grade : ℝ) : (gradedProblem grade).train ≠ [] := by
  rw [gradedProblem, SearchProblem.train_ofDataset]
  decide +kernel

/-- A grade out of range is clamped, and the bounds hold. -/
theorem gradedProblem_improves_within_bound :
    let problem := gradedProblem 2
    let config := problem.config
    let summary := (problem.evaluator.evaluateCases simulatedRoot problem.train .train []).1
    config.validate = .ok () ∧ (judgesGrading (2 : ℝ)).Sound ∧
      Evaluator.ofConfig (.simulated simulatedSchema simulatedCatalog) (judgesGrading 2) config =
        .ok problem.evaluator ∧
      summary.meanScore ≤ 1 ∧ summary.uncertainty ≤ 3 / 2 ∧
      ∃ outcome, problem.run simulatedRoot (ChaCha.ofSeed 0) [] = .ok outcome ∧
        ∃ rootNode, outcome.final.tree.root? = some rootNode ∧
          (outcome.final.traces.countP (·.becameBest) : ℝ) ≤
            (1 + config.objective.confidence - config.nodeScore rootNode) /
              config.minImprovement := by
  intro problem config summary
  have hconfig : config.validate = .ok () :=
    (SearchConfig.validate_eq_ok_iff _).mpr (SearchConfig.default_valid (List.cons_ne_nil _ _))
  have hsource : (judgesGrading (2 : ℝ)).Sound := judgesGrading_sound 2
  have hevaluator : Evaluator.ofConfig (.simulated simulatedSchema simulatedCatalog)
      (judgesGrading 2) config = .ok problem.evaluator := rfl
  obtain ⟨outcome, houtcome, -⟩ :=
    SearchProblem.run_reaches (gradedProblem_train_ne_nil 2) simulatedRoot (ChaCha.ofSeed 0) []
  obtain ⟨hsummaries, hruns⟩ :=
    SearchProblem.run_improves_within_bound hconfig hsource hevaluator
  obtain ⟨hrange, -⟩ := hsummaries simulatedRoot problem.train .train []
  obtain ⟨rootNode, hroot, -, -, -, hcount⟩ :=
    hruns simulatedRoot (ChaCha.ofSeed 0) [] outcome houtcome
  exact ⟨hconfig, hsource, hevaluator, hrange.meanScore.2, hrange.uncertainty.2, outcome, houtcome,
    rootNode, hroot, hcount⟩

end WorkflowSearch
