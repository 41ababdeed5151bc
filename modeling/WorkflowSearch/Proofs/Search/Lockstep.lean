import WorkflowSearch.Proofs.Search.Capacity

namespace WorkflowSearch

variable {α σ τ : Type} [Scalar α] [RandomSource σ] [RandomSource τ]

namespace SearchProblem

/-- A search follows another one through a view of its states. It has the same settings, sees in the
view what a run looks at between expansions, and makes the same expansions up to any state that is
fine, as all states before such a state are. -/
structure Follows (leader follower : SearchProblem α) (view : SearchState α σ → SearchState α τ)
    (Fine : SearchState α σ → Prop) : Prop where
  config : follower.config = leader.config
  families : follower.families = leader.families
  train : follower.train = leader.train
  cancellation : follower.cancellation = leader.cancellation
  tree : ∀ state, (view state).tree = state.tree
  bestSelection : ∀ state, (view state).bestSelection = state.bestSelection
  history : ∀ state, (view state).history = state.history
  earlier : ∀ {before after : SearchState α σ},
    leader.Reaches before after → Fine after → Fine before
  expansion : ∀ {root : Blueprint} {round expansion id : ℕ} {before after : SearchState α σ},
    leader.Grown root before.tree → leader.Expansion round expansion id before after → Fine after →
      follower.Expansion round expansion id (view before) (view after)

namespace Follows

variable {leader follower : SearchProblem α} {view : SearchState α σ → SearchState α τ}
  {Fine : SearchState α σ → Prop} (h : leader.Follows follower view Fine) {root : Blueprint}
include h

theorem observed (stopper : EarlyStopper α) (state : SearchState α σ) :
    follower.observed stopper (view state) = leader.observed stopper state := by
  rw [SearchProblem.observed, SearchProblem.observed, h.config, h.bestSelection]

theorem expand (hfamilies : leader.families ≠ []) {round parent left expansion : ℕ}
    {before after : SearchState α σ} (hgrown : leader.Grown root before.tree)
    (hexpand : leader.expand round parent left expansion before = .ok after) :
    leader.Reaches before after ∧
      (Fine after →
        follower.expand round parent left expansion (view before) = .ok (view after)) := by
  induction left generalizing expansion before with
  | zero =>
    obtain rfl := Except.ok.inj hexpand
    exact ⟨.refl, fun _ ↦ rfl⟩
  | succ left ih =>
    by_cases hfull : leader.Full before parent
    · obtain rfl : before = after := Except.ok.inj ((expand_of_full hfull ..).symm.trans hexpand)
      have hfull' : follower.Full (view before) parent := fun node hnode ↦ by
        rw [h.config]
        exact hfull node (h.tree before ▸ hnode)
      exact ⟨.refl, fun _ ↦ expand_of_full hfull' ..⟩
    · simp only [Full, not_forall, not_le] at hfull
      obtain ⟨node, hnode, hroom⟩ := hfull
      obtain ⟨next, hfirst⟩ := hgrown.exists_expansion hfamilies hnode hroom round expansion
      rw [hfirst.expand_eq] at hexpand
      have hstep : leader.Reaches before next := .single ⟨_, _, _, hfirst⟩
      obtain ⟨hrest, hsame⟩ := ih (hgrown.reaches hstep) hexpand
      refine ⟨hstep.trans hrest, fun hfine ↦ ?_⟩
      rw [(h.expansion hgrown hfirst (h.earlier hrest hfine)).expand_eq]
      exact hsame hfine

variable (hfamilies : leader.families ≠ []) {start : SearchState α σ}
  (hgrown : leader.Grown root start.tree)
include hfamilies hgrown

theorem round {round parent : ℕ} {after : SearchState α σ}
    (hround : leader.Round round parent start after) (hfine : Fine after) :
    follower.Round round parent (view start) (view after) := by
  obtain ⟨-, hexpand⟩ := h.expand hfamilies hgrown hround.expanded
  constructor
  · rw [h.tree, h.config, hround.selected]
  · rw [h.config]
    exact hexpand hfine

theorem atBoundary {done : ℕ} {stopper : EarlyStopper α} {state : SearchState α σ}
    (hboundary : leader.AtBoundary start done stopper state) (hfine : Fine state) :
    follower.AtBoundary (view start) done stopper (view state) := by
  induction hboundary with
  | start => exact .start
  | next hprevious hunseen hround hgoing ih =>
    have hbefore := hgrown.reaches (hprevious.reaches hfamilies)
    have hearlier := ih (h.earlier (hround.reaches hfamilies) hfine)
    rw [← h.observed]
    refine hearlier.next ?_ (h.round hfamilies hbefore hround hfine) ?_
    · rwa [h.cancellation, h.history]
    · rwa [h.observed, h.config]

theorem ends {rounds : ℕ} {outcome : SearchOutcome α σ} (hends : leader.Ends start rounds outcome)
    (hfine : Fine outcome.final) :
    follower.Ends (view start) rounds
      ⟨view outcome.final, outcome.stopReason, outcome.roundsCompleted⟩ := by
  cases hends with
  | exhausted hboundary => exact .exhausted (h.atBoundary hfamilies hgrown hboundary hfine)
  | cancelled hboundary hlt hseen =>
    refine .cancelled (h.atBoundary hfamilies hgrown hboundary hfine) hlt ?_
    rwa [h.cancellation, h.history]
  | unselected hboundary hlt hunseen hnone =>
    refine .unselected (h.atBoundary hfamilies hgrown hboundary hfine) hlt ?_ ?_
    · rwa [h.cancellation, h.history]
    · rwa [h.tree, h.config]
  | stopped hboundary hlt hunseen hround hstop =>
    have hbefore := hgrown.reaches (hboundary.reaches hfamilies)
    have hearlier := h.atBoundary hfamilies hgrown hboundary
      (h.earlier (hround.reaches hfamilies) hfine)
    refine .stopped hearlier hlt ?_ (h.round hfamilies hbefore hround hfine) ?_
    · rwa [h.cancellation, h.history]
    · rwa [h.observed, h.config]

omit hfamilies hgrown

/-- A search that follows another one, and begins where it begins, makes the same run. -/
theorem run_eq {source : σ} {source' : τ} {history : History} {outcome : SearchOutcome α σ}
    (hseeded : Fine (leader.seeded root source history) →
      follower.seeded root source' history = view (leader.seeded root source history))
    (hrun : leader.run root source history = .ok outcome) (hfine : Fine outcome.final) :
    follower.run root source' history =
      .ok ⟨view outcome.final, outcome.stopReason, outcome.roundsCompleted⟩ := by
  obtain ⟨htrain, hreaches⟩ := reaches_of_run hrun
  have htrain' : follower.train ≠ [] := h.train ▸ htrain
  have hstart := hseeded (h.earlier hreaches hfine)
  by_cases hfamilies : leader.families = []
  · rw [run_of_families_eq_nil htrain hfamilies] at hrun
    obtain rfl := Except.ok.inj hrun
    rw [run_of_families_eq_nil htrain' (h.families.trans hfamilies), hstart]
  · have hgrown : leader.Grown root (leader.seeded root source history).tree :=
      Reaches.grown .refl
    have hends := h.ends hfamilies hgrown (ends_of_run hfamilies hrun) hfine
    have hfamilies' : follower.families ≠ [] := h.families ▸ hfamilies
    rwa [run_eq_ok_iff htrain', roundLimit_eq hfamilies', hstart, h.config]

end Follows

end SearchProblem

end WorkflowSearch
