import Mathlib.Logic.Relation
import WorkflowSearch.Proofs.Results
import WorkflowSearch.Proofs.Search.Mutation
import WorkflowSearch.Proofs.Search.Tree
import WorkflowSearch.Search.Run

namespace WorkflowSearch

variable {α σ : Type} [Scalar α]

theorem chooseFamily?_eq_some [RandomSource σ] {families : List MutationFamily}
    (h : families ≠ []) {aware : Bool} {round expansion : ℕ} {dominant : Option FailureCategory}
    {source : σ} {family? : Option MutationFamily} {source' : σ}
    (hchoice : chooseFamily? families aware round expansion dominant source = (family?, source')) :
    ∃ family, family? = some family := by
  have hlt : (round + expansion) % families.length < families.length :=
    Nat.mod_lt _ (List.length_pos_iff.mpr h)
  have hrotation : rotation? families round expansion = some _ := List.getElem?_eq_getElem hlt
  unfold chooseFamily? at hchoice
  dsimp only at hchoice
  split at hchoice
  · exact ⟨_, (Prod.mk.inj hchoice).1.symm.trans hrotation⟩
  · obtain ⟨rfl, -⟩ := Prod.mk.inj hchoice
    split
    · exact ⟨_, rfl⟩
    · exact ⟨_, hrotation⟩

structure TraceEntry.Compares (entry : TraceEntry α) (minImprovement previous : α) : Prop where
  improvement : entry.improvement = entry.selectionScore - previous
  becameBest : entry.becameBest = decide (minImprovement ≤ entry.improvement)
  regret : entry.regret =
    if entry.becameBest then 0 else previous + minImprovement - entry.selectionScore
  bestSelectionScore : entry.bestSelectionScore =
    if entry.becameBest then entry.selectionScore else previous

structure TraceEntry.Describes (entry : TraceEntry α) (parent child : Node α) : Prop where
  selectedNode : entry.selectedNode = parent.id
  selectedBlueprint : entry.selectedBlueprint = parent.blueprint.parts.id
  childBlueprint : entry.childBlueprint = child.blueprint.parts.id
  parent : child.parent = some parent.id
  mutation : child.mutation = some entry.mutation
  trainObjective : entry.trainObjective = child.train.objective
  valObjective : entry.valObjective = child.validation.objective
  uncertainty : entry.uncertainty = child.validation.uncertainty
  gap : entry.generalizationGap =
    WorkflowSearch.generalizationGap child.train.meanScore child.validation.meanScore

namespace SearchProblem

variable (problem : SearchProblem α)

/-- What the record of a child changes: the calls of its evaluation are made, the child and its entry
come last, and the entry says whether the child is the best from then on. -/
structure Recorded (before after : SearchState α σ) (child : Node α) (entry : TraceEntry α) :
    Prop where
  evaluated : problem.evaluate child.blueprint before.history =
    ((child.train, child.validation), after.history)
  id_eq : child.id = before.tree.size
  created : after.tree.created = before.tree.created ++ [child]
  traces : after.traces = before.traces ++ [entry]
  childNode : entry.childNode = child.id
  score : entry.selectionScore = problem.config.selectionScore child.train child.validation
  compares : entry.Compares problem.config.minImprovement before.bestSelection
  bestSelection : after.bestSelection = entry.bestSelectionScore
  bestNode : after.bestNode = if entry.becameBest then entry.childNode else before.bestNode

/-- What an expansion changes: besides, the entry has its place in the run and describes the child,
the tree counts the child, and the best train objective takes it in. -/
structure Expanded (round expansion : ℕ) (before after : SearchState α σ) (parent child : Node α)
    (entry : TraceEntry α) : Prop extends problem.Recorded before after child entry where
  round : entry.round = round
  expansion : entry.expansion = expansion
  describes : entry.Describes parent child
  bestTrainObjective :
    entry.bestTrainObjective = Scalar.max before.bestTrain child.train.objective
  bestTrain : after.bestTrain = entry.bestTrainObjective
  tree : ∃ tree, before.tree.addChild? parent.id child.blueprint entry.mutation child.train
      child.validation = some (tree, child.id) ∧
    after.tree = tree.backpropagate child.id child.train.objective

/-- What the evaluation of the root leaves: the root alone, which is the best, and an empty log. -/
structure Seeded (root : Blueprint) (history : History) (state : SearchState α σ)
    (node : Node α) : Prop where
  evaluated : problem.evaluate node.blueprint history =
    ((node.train, node.validation), state.history)
  id_eq : node.id = 0
  blueprint : node.blueprint = root
  parent : node.parent = none
  mutation : node.mutation = none
  created : state.tree.created = [node]
  tree : state.tree =
    (Tree.ofRoot root node.train node.validation).backpropagate 0 node.train.objective
  traces : state.traces = []
  bestNode : state.bestNode = 0
  bestSelection :
    state.bestSelection = problem.config.selectionScore node.train node.validation
  bestTrain : state.bestTrain = node.train.objective

theorem exists_seeded (root : Blueprint) (source : σ) (history : History) :
    ∃ node, problem.Seeded root history (problem.seeded root source history) node := by
  obtain ⟨⟨⟨train, validation⟩, after⟩, hevaluate⟩ :
      ∃ result, problem.evaluate root history = result := ⟨_, rfl⟩
  unfold seeded
  rw [hevaluate]
  exact ⟨_, ⟨hevaluate, rfl, rfl, rfl, rfl, Tree.created_backpropagate _ 0 train.objective, rfl, rfl,
    rfl, rfl, rfl⟩⟩

theorem expanded_of_recordChild {before after : SearchState α σ} {round expansion : ℕ}
    {parent : Node α} {blueprint : Blueprint} {mutation : Mutation} {context : SearchContext α σ}
    (h : problem.recordChild before round expansion parent blueprint mutation context =
      some after) :
    ∃ child entry, problem.Expanded round expansion before after parent child entry ∧
      child.blueprint = blueprint ∧ entry.mutation = mutation := by
  obtain ⟨⟨⟨train, validation⟩, history⟩, hevaluate⟩ :
      ∃ result, problem.evaluate blueprint before.history = result := ⟨_, rfl⟩
  rw [recordChild, hevaluate] at h
  obtain ⟨⟨tree, id⟩, hadd, h⟩ := Option.bind_eq_some_iff.mp h
  obtain ⟨-, rfl, hcreated⟩ := Tree.addChild?_eq_some hadd
  obtain rfl := Option.some.inj h
  rw [← Tree.created_backpropagate _ before.tree.size train.objective] at hcreated
  exact ⟨_, _, ⟨⟨hevaluate, rfl, hcreated, rfl, rfl, rfl, ⟨rfl, rfl, rfl, rfl⟩, rfl, rfl⟩, rfl, rfl,
    ⟨rfl, rfl, rfl, rfl, rfl, rfl, rfl, rfl, rfl⟩, rfl, rfl, tree, hadd, rfl⟩, rfl, rfl⟩

def credited (context : SearchContext α σ) (mutation : Mutation) (improvement : α) :
    SearchContext α σ :=
  { context with
    gains := if problem.config.enableToolHistoricalGain then
      creditTool context.gains mutation improvement problem.config.toolGainDecay
    else context.gains }

theorem context_of_recordChild {before after : SearchState α σ} {round expansion : ℕ}
    {parent : Node α} {blueprint : Blueprint} {mutation : Mutation} {context : SearchContext α σ}
    (h : problem.recordChild before round expansion parent blueprint mutation context =
      some after) :
    after.context = problem.credited context mutation
      ((problem.evaluate blueprint before.history).1.1.objective - parent.train.objective) := by
  rw [recordChild] at h
  obtain ⟨_, _, h⟩ := Option.bind_eq_some_iff.mp h
  obtain rfl := Option.some.inj h
  rfl

theorem Recorded.size_eq {before after : SearchState α σ} {child : Node α} {entry : TraceEntry α}
    (h : problem.Recorded before after child entry) :
    after.tree.size = before.tree.size + 1 := by
  rw [← Tree.length_created, h.created, List.length_append, Tree.length_created,
    List.length_singleton]

theorem size_le_of_recordChild {state : SearchState α σ} {round expansion : ℕ} {parent : Node α}
    {blueprint : Blueprint} {mutation : Mutation} {context : SearchContext α σ}
    (h : problem.recordChild state round expansion parent blueprint mutation context = none) :
    state.tree.size ≤ parent.id := by
  by_contra hlt
  rw [recordChild] at h
  simp only [Tree.addChild?, if_pos (not_le.mp hlt)] at h
  exact Option.some_ne_none _ h

theorem exists_deriveChild (family : MutationFamily) (node : Node α) (context : SearchContext α σ) :
    ∃ child mutation, (problem.deriveChild family node context).1 = .ok (child, mutation) := by
  obtain ⟨child, mutation, hchild, -⟩ := problem.mutator.apply_ok node.blueprint family node.train
    context.nextBlueprintId.1 context.nextBlueprintId.2
  exact ⟨child, mutation, hchild⟩

theorem derives_of_deriveChild {family : MutationFamily} {node : Node α}
    {context : SearchContext α σ} {child : Blueprint} {mutation : Mutation}
    (h : (problem.deriveChild family node context).1 = .ok (child, mutation)) :
    problem.mutator.Derives node.blueprint (blueprintId context.nextBlueprint) child mutation :=
  problem.mutator.derives_of_apply node.blueprint h

theorem gains_deriveChild (family : MutationFamily) (node : Node α) (context : SearchContext α σ) :
    (problem.deriveChild family node context).2.gains = context.gains :=
  problem.mutator.gains_apply ..

theorem nextBlueprint_deriveChild (family : MutationFamily) (node : Node α)
    (context : SearchContext α σ) :
    (problem.deriveChild family node context).2.nextBlueprint = context.nextBlueprint + 1 :=
  problem.mutator.nextBlueprint_apply ..

/-- How an expansion comes by its child and its context. -/
inductive Applied (before after : SearchState α σ) (parent child : Node α)
    (entry : TraceEntry α) : Prop
  | intro {family : MutationFamily} {source : σ} {context : SearchContext α σ}
      (derived : problem.deriveChild family parent { before.context with source } =
        (.ok (child.blueprint, entry.mutation), context))
      (context_eq : after.context = problem.credited context entry.mutation
        (child.train.objective - parent.train.objective))

variable [RandomSource σ]

def Full (state : SearchState α σ) (id : ℕ) : Prop :=
  ∀ node, state.tree.get? id = some node → problem.config.maxChildren ≤ node.children.length

/-- One expansion of the node with an id: a mutation of the chosen family derives a blueprint, which
is evaluated and recorded. -/
inductive Expansion (round expansion parent : ℕ) (before after : SearchState α σ) : Prop
  | intro {node : Node α} {family : MutationFamily} {source : σ} {blueprint : Blueprint}
      {mutation : Mutation} {context : SearchContext α σ}
      (selected : before.tree.get? parent = some node)
      (room : node.children.length < problem.config.maxChildren)
      (chosen : chooseFamily? problem.families problem.config.failureAwareScheduling round
        expansion node.train.dominantFailure? before.context.source = (some family, source))
      (derived : problem.deriveChild family node { before.context with source } =
        (.ok (blueprint, mutation), context))
      (recorded : problem.recordChild before round expansion node blueprint mutation context =
        some after)

/-- The states that expansions lead to. -/
def Reaches : SearchState α σ → SearchState α σ → Prop :=
  Relation.ReflTransGen fun before after ↦
    ∃ round expansion parent, problem.Expansion round expansion parent before after

/-- The states of a round: those that the first expansions of one node lead to. -/
inductive InRound (round parent : ℕ) (start : SearchState α σ) : ℕ → SearchState α σ → Prop
  | start : InRound round parent start 0 start
  | next {expansion : ℕ} {before after : SearchState α σ}
      (previous : InRound round parent start expansion before)
      (last : problem.Expansion round expansion parent before after) :
      InRound round parent start (expansion + 1) after

inductive AfterRounds (start : SearchState α σ) : ℕ → SearchState α σ → Prop
  | start : AfterRounds start 0 start
  | next {done parent expansions : ℕ} {before after : SearchState α σ}
      (previous : AfterRounds start done before)
      (selected : before.tree.select? problem.config = some parent)
      (last : problem.InRound (done + 1) parent before expansions after) :
      AfterRounds start (done + 1) after

variable {problem}

theorem Expansion.exists_applied {round expansion id : ℕ} {before after : SearchState α σ}
    (h : problem.Expansion round expansion id before after) :
    ∃ parent child entry, before.tree.get? id = some parent ∧
      problem.mutator.Derives parent.blueprint (blueprintId before.context.nextBlueprint)
        child.blueprint entry.mutation ∧
      problem.Expanded round expansion before after parent child entry ∧
      problem.Applied before after parent child entry := by
  obtain @⟨parent, family, source, _, _, _, hselected, -, -, hderived, hrecord⟩ := h
  have hcontext := problem.context_of_recordChild hrecord
  obtain ⟨child, entry, hexpanded, rfl, rfl⟩ := problem.expanded_of_recordChild hrecord
  rw [hexpanded.evaluated] at hcontext
  have hderives := problem.derives_of_deriveChild (congrArg Prod.fst hderived)
  exact ⟨parent, child, entry, hselected, hderives, hexpanded, hderived, hcontext⟩

theorem Expansion.exists_expanded {round expansion id : ℕ} {before after : SearchState α σ}
    (h : problem.Expansion round expansion id before after) :
    ∃ parent child entry, before.tree.get? id = some parent ∧
      problem.mutator.Derives parent.blueprint (blueprintId before.context.nextBlueprint)
        child.blueprint entry.mutation ∧
      problem.Expanded round expansion before after parent child entry := by
  obtain ⟨parent, child, entry, hselected, hderives, hexpanded, -⟩ := h.exists_applied
  exact ⟨parent, child, entry, hselected, hderives, hexpanded⟩

theorem Reaches.applied_induction {P : SearchState α σ → Prop}
    (step : ∀ {round expansion id : ℕ} {before after : SearchState α σ} {parent child : Node α}
      {entry : TraceEntry α}, before.tree.get? id = some parent →
      problem.mutator.Derives parent.blueprint (blueprintId before.context.nextBlueprint)
        child.blueprint entry.mutation →
      problem.Expanded round expansion before after parent child entry →
      problem.Applied before after parent child entry → P before → P after)
    {before after : SearchState α σ} (h : problem.Reaches before after) (hbefore : P before) :
    P after := by
  induction h with
  | refl => exact hbefore
  | tail _ hlast ih =>
    obtain ⟨round, expansion, id, hlast⟩ := hlast
    obtain ⟨parent, child, entry, hselected, hderives, hexpanded, happlied⟩ := hlast.exists_applied
    exact step hselected hderives hexpanded happlied ih

theorem Reaches.expansion_induction {P : SearchState α σ → Prop}
    (step : ∀ {round expansion id : ℕ} {before after : SearchState α σ} {parent child : Node α}
      {entry : TraceEntry α}, before.tree.get? id = some parent →
      problem.mutator.Derives parent.blueprint (blueprintId before.context.nextBlueprint)
        child.blueprint entry.mutation →
      problem.Expanded round expansion before after parent child entry → P before → P after)
    {before after : SearchState α σ} (h : problem.Reaches before after) (hbefore : P before) :
    P after :=
  h.applied_induction (fun hselected hderives hexpanded _ ↦ step hselected hderives hexpanded)
    hbefore

/-- What every record of a child keeps is kept by all that expansions lead to. -/
theorem Reaches.induction {P : SearchState α σ → Prop}
    (step : ∀ {before after : SearchState α σ} {child : Node α} {entry : TraceEntry α},
      problem.Recorded before after child entry → P before → P after)
    {before after : SearchState α σ} (h : problem.Reaches before after) (hbefore : P before) :
    P after :=
  h.expansion_induction (fun _ _ hexpanded ↦ step hexpanded.toRecorded) hbefore

theorem Reaches.prefix_traces {before after : SearchState α σ} (h : problem.Reaches before after) :
    before.traces <+: after.traces :=
  h.induction (P := fun state ↦ before.traces <+: state.traces)
    (fun hrecorded hbefore ↦ hbefore.trans ⟨_, hrecorded.traces.symm⟩) List.prefix_rfl

theorem Reaches.prefix_created {before after : SearchState α σ} (h : problem.Reaches before after) :
    before.tree.created <+: after.tree.created :=
  h.induction (P := fun state ↦ before.tree.created <+: state.tree.created)
    (fun hrecorded hbefore ↦ hbefore.trans ⟨_, hrecorded.created.symm⟩) List.prefix_rfl

theorem Reaches.exists_evaluate {root : Blueprint} {source : σ} {history : History}
    {state : SearchState α σ} (h : problem.Reaches (problem.seeded root source history) state) :
    ∀ node ∈ state.tree.nodes, ∃ before after,
      problem.evaluate node.blueprint before = ((node.train, node.validation), after) := by
  have hcreated : ∀ node ∈ state.tree.created, ∃ before after,
      problem.evaluate node.blueprint before = ((node.train, node.validation), after) := by
    refine h.induction (P := fun state ↦ ∀ node ∈ state.tree.created, ∃ before after,
      problem.evaluate node.blueprint before = ((node.train, node.validation), after)) ?_ ?_
    · intro before after child entry hrecorded hbefore
      rw [hrecorded.created, List.forall_mem_append, List.forall_mem_singleton]
      exact ⟨hbefore, _, _, hrecorded.evaluated⟩
    · obtain ⟨node, hseeded⟩ := problem.exists_seeded root source history
      rw [hseeded.created, List.forall_mem_singleton]
      exact ⟨_, _, hseeded.evaluated⟩
  exact fun node hnode ↦ hcreated node.asCreated (List.mem_map_of_mem hnode)

theorem InRound.reaches {round parent expansion : ℕ} {start state : SearchState α σ}
    (h : problem.InRound round parent start expansion state) : problem.Reaches start state := by
  induction h with
  | start => exact .refl
  | next _ hlast ih => exact ih.tail ⟨_, _, _, hlast⟩

theorem AfterRounds.reaches {done : ℕ} {start state : SearchState α σ}
    (h : problem.AfterRounds start done state) : problem.Reaches start state := by
  induction h with
  | start => exact .refl
  | next _ _ hlast ih => exact ih.trans hlast.reaches

theorem expand_of_full {state : SearchState α σ} {parent : ℕ} (h : problem.Full state parent)
    (round left expansion : ℕ) :
    problem.expand round parent left expansion state = .ok state := by
  cases left with
  | zero => rfl
  | succ left =>
    rw [expand]
    cases hnode : state.tree.get? parent with
    | none => rfl
    | some node => exact if_pos (h node hnode)

theorem Expansion.expand_eq {round expansion parent : ℕ} {before after : SearchState α σ}
    (h : problem.Expansion round expansion parent before after) (left : ℕ) :
    problem.expand round parent (left + 1) expansion before =
      problem.expand round parent left (expansion + 1) after := by
  obtain ⟨hnode, hroom, hchosen, hderived, hrecorded⟩ := h
  rw [expand]
  simp only [hnode, if_neg (not_le.mpr hroom), hchosen, hderived, hrecorded]

theorem expand_succ (hfamilies : problem.families ≠ []) {round parent : ℕ} {state : SearchState α σ}
    {node : Node α} (hnode : state.tree.get? parent = some node)
    (hroom : node.children.length < problem.config.maxChildren) (expansion : ℕ) :
    (state.tree.size ≤ node.id ∧
      ∀ left, problem.expand round parent (left + 1) expansion state = .ok state) ∨
    ∃ next, problem.Expansion round expansion parent state next ∧
      ∀ left, problem.expand round parent (left + 1) expansion state =
        problem.expand round parent left (expansion + 1) next := by
  obtain ⟨⟨family?, source⟩, hchoice⟩ :
      ∃ choice, chooseFamily? problem.families problem.config.failureAwareScheduling round
        expansion node.train.dominantFailure? state.context.source = choice := ⟨_, rfl⟩
  obtain ⟨family, rfl⟩ := chooseFamily?_eq_some hfamilies hchoice
  obtain ⟨⟨derived, context⟩, hderived⟩ :
      ∃ result, problem.deriveChild family node { state.context with source } = result := ⟨_, rfl⟩
  obtain ⟨blueprint, mutation, hok⟩ :=
    problem.exists_deriveChild family node { state.context with source }
  rw [hderived] at hok
  obtain rfl : derived = .ok (blueprint, mutation) := hok
  have hfull : ¬ problem.config.maxChildren ≤ node.children.length := not_le.mpr hroom
  cases hrecord : problem.recordChild state round expansion node blueprint mutation context with
  | none =>
    refine .inl ⟨?_, fun left ↦ ?_⟩
    · exact problem.size_le_of_recordChild hrecord
    · rw [expand]
      simp only [hnode, if_neg hfull, hchoice, hderived, hrecord]
  | some next =>
    have hnext : problem.Expansion round expansion parent state next :=
      ⟨hnode, hroom, hchoice, hderived, hrecord⟩
    exact .inr ⟨next, hnext, hnext.expand_eq⟩

theorem expand_inRound (hfamilies : problem.families ≠ []) {round parent expansion : ℕ}
    {start state : SearchState α σ} (hstate : problem.InRound round parent start expansion state)
    (left : ℕ) :
    ∃ after last, problem.expand round parent left expansion state = .ok after ∧
      problem.InRound round parent start last after := by
  induction left generalizing expansion state with
  | zero => exact ⟨state, expansion, rfl, hstate⟩
  | succ left ih =>
    by_cases hfull : problem.Full state parent
    · exact ⟨state, expansion, expand_of_full hfull .., hstate⟩
    · simp only [Full, not_forall, not_le] at hfull
      obtain ⟨node, hnode, hroom⟩ := hfull
      obtain ⟨-, hstop⟩ | ⟨next, hlast, hnext⟩ := expand_succ hfamilies hnode hroom expansion
      · exact ⟨state, expansion, hstop left, hstate⟩
      · rw [hnext]
        exact ih (hstate.next hlast)

theorem runRounds_afterRounds (hfamilies : problem.families ≠ []) {done : ℕ}
    {start state : SearchState α σ} (hstate : problem.AfterRounds start done state) (left : ℕ)
    (stopper : EarlyStopper α) :
    ∃ outcome, problem.runRounds left done stopper state = .ok outcome ∧
      problem.AfterRounds start outcome.roundsCompleted outcome.final := by
  induction left generalizing done stopper state with
  | zero => exact ⟨⟨state, .budgetExhausted, done⟩, rfl, hstate⟩
  | succ left ih =>
    unfold runRounds
    by_cases hcancelled : problem.cancellation (.beforeRound (done + 1)) state.history
    · exact ⟨⟨state, .cancelled, done⟩, by simp only [if_pos hcancelled], hstate⟩
    · simp only [if_neg hcancelled]
      cases hselected : state.tree.select? problem.config with
      | none => exact ⟨⟨state, .budgetExhausted, done⟩, rfl, hstate⟩
      | some parent =>
        have hstart : problem.InRound (done + 1) parent state 0 state := .start
        obtain ⟨next, expansions, hnext, hround⟩ :=
          expand_inRound hfamilies hstart problem.config.expansionsPerRound
        have hstate' := hstate.next hselected hround
        simp only [hnext, ok_bind]
        split
        · exact ⟨⟨next, .earlyStopped, done + 1⟩, rfl, hstate'⟩
        · exact ih hstate' _

/-- A run over train cases ends, after the rounds that it completed. -/
theorem run_afterRounds (htrain : problem.train ≠ []) (root : Blueprint) (source : σ)
    (history : History) :
    ∃ outcome, problem.run root source history = .ok outcome ∧
      problem.AfterRounds (problem.seeded root source history) outcome.roundsCompleted
        outcome.final := by
  unfold run
  rw [if_neg (by simpa using htrain)]
  by_cases hfamilies : problem.families = []
  · rw [hfamilies]
    exact ⟨_, rfl, .start⟩
  · exact runRounds_afterRounds hfamilies .start _ _

theorem run_reaches (htrain : problem.train ≠ []) (root : Blueprint) (source : σ)
    (history : History) :
    ∃ outcome, problem.run root source history = .ok outcome ∧
      problem.Reaches (problem.seeded root source history) outcome.final := by
  obtain ⟨outcome, houtcome, hrounds⟩ := run_afterRounds htrain root source history
  exact ⟨outcome, houtcome, hrounds.reaches⟩

theorem afterRounds_of_run {root : Blueprint} {source : σ} {history : History}
    {outcome : SearchOutcome α σ} (h : problem.run root source history = .ok outcome) :
    problem.train ≠ [] ∧ problem.AfterRounds (problem.seeded root source history)
      outcome.roundsCompleted outcome.final := by
  have htrain : problem.train ≠ [] := by
    rintro hnil
    rw [run, if_pos (by simp [hnil])] at h
    cases h
  obtain ⟨outcome', houtcome, hrounds⟩ := run_afterRounds htrain root source history
  obtain rfl : outcome' = outcome := Except.ok.inj (houtcome.symm.trans h)
  exact ⟨htrain, hrounds⟩

theorem reaches_of_run {root : Blueprint} {source : σ} {history : History}
    {outcome : SearchOutcome α σ} (h : problem.run root source history = .ok outcome) :
    problem.train ≠ [] ∧ problem.Reaches (problem.seeded root source history) outcome.final :=
  (afterRounds_of_run h).imp id AfterRounds.reaches

end SearchProblem

end WorkflowSearch
