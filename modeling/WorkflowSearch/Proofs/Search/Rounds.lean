import WorkflowSearch.Proofs.Search.Growth
import WorkflowSearch.Proofs.Search.Selection

namespace WorkflowSearch

variable {α σ : Type} [Scalar α]

namespace SearchProblem

section Boundaries

variable [RandomSource σ] (problem : SearchProblem α)

/-- A whole round, with all the expansions of the selected node that the settings allow. -/
structure Round (round parent : ℕ) (before after : SearchState α σ) : Prop where
  selected : before.tree.select? problem.config = some parent
  expanded : problem.expand round parent problem.config.expansionsPerRound 0 before = .ok after

def observed (stopper : EarlyStopper α) (after : SearchState α σ) : EarlyStopper α :=
  stopper.observe problem.config.minImprovement after.bestSelection

/-- The boundaries that a run comes to, with the number of the rounds before them: no earlier round
was cancelled or stopped the run. -/
inductive AtBoundary (start : SearchState α σ) : ℕ → EarlyStopper α → SearchState α σ → Prop
  | start : AtBoundary start 0 .initial start
  | next {done parent : ℕ} {stopper : EarlyStopper α} {before after : SearchState α σ}
      (previous : AtBoundary start done stopper before)
      (unseen : problem.cancellation (.beforeRound (done + 1)) before.history = false)
      (round : problem.Round (done + 1) parent before after)
      (going : (problem.observed stopper after).shouldStop problem.config.patience = false) :
      AtBoundary start (done + 1) (problem.observed stopper after) after

inductive Ends (start : SearchState α σ) (rounds : ℕ) : SearchOutcome α σ → Prop
  | exhausted {stopper : EarlyStopper α} {state : SearchState α σ}
      (boundary : problem.AtBoundary start rounds stopper state) :
      Ends start rounds ⟨state, .budgetExhausted, rounds⟩
  | cancelled {done : ℕ} {stopper : EarlyStopper α} {state : SearchState α σ}
      (boundary : problem.AtBoundary start done stopper state) (left : done < rounds)
      (seen : problem.cancellation (.beforeRound (done + 1)) state.history = true) :
      Ends start rounds ⟨state, .cancelled, done⟩
  | unselected {done : ℕ} {stopper : EarlyStopper α} {state : SearchState α σ}
      (boundary : problem.AtBoundary start done stopper state) (left : done < rounds)
      (unseen : problem.cancellation (.beforeRound (done + 1)) state.history = false)
      (none : state.tree.select? problem.config = none) :
      Ends start rounds ⟨state, .budgetExhausted, done⟩
  | stopped {done parent : ℕ} {stopper : EarlyStopper α} {before after : SearchState α σ}
      (boundary : problem.AtBoundary start done stopper before) (left : done < rounds)
      (unseen : problem.cancellation (.beforeRound (done + 1)) before.history = false)
      (round : problem.Round (done + 1) parent before after)
      (stop : (problem.observed stopper after).shouldStop problem.config.patience = true) :
      Ends start rounds ⟨after, .earlyStopped, done + 1⟩

def roundLimit : ℕ :=
  if problem.families.isEmpty then 0 else problem.config.rounds

/-- The states at the boundaries of a run with so many rounds: it comes from each to the next by a
whole round, which it is not cancelled before. -/
structure Passes (start : SearchState α σ) (done : ℕ) (final : SearchState α σ)
    (states : ℕ → SearchState α σ) : Prop where
  first : states 0 = start
  last : states done = final
  unseen : ∀ k < done, problem.cancellation (.beforeRound (k + 1)) (states k).history = false
  round : ∀ k < done, ∃ parent, problem.Round (k + 1) parent (states k) (states (k + 1))

variable {problem}

theorem Round.eq {round parent parent' : ℕ} {before after after' : SearchState α σ}
    (h : problem.Round round parent before after) (h' : problem.Round round parent' before after') :
    after = after' := by
  obtain rfl : parent = parent' := Option.some.inj (h.selected.symm.trans h'.selected)
  exact Except.ok.inj (h.expanded.symm.trans h'.expanded)

theorem AtBoundary.eq {start : SearchState α σ} {done : ℕ} {stopper stopper' : EarlyStopper α}
    {state state' : SearchState α σ} (h : problem.AtBoundary start done stopper state)
    (h' : problem.AtBoundary start done stopper' state') : stopper = stopper' ∧ state = state' := by
  induction h generalizing stopper' state' with
  | start =>
    cases h'
    exact ⟨rfl, rfl⟩
  | next _ _ hround _ ih =>
    cases h' with
    | next hprevious _ hround' _ =>
      obtain ⟨rfl, rfl⟩ := ih hprevious
      obtain rfl := hround.eq hround'
      exact ⟨rfl, rfl⟩

theorem AtBoundary.passed_of_lt {start : SearchState α σ} {done earlier : ℕ}
    {stopper stopper' : EarlyStopper α} {state state' : SearchState α σ}
    (h : problem.AtBoundary start done stopper state) (hlt : earlier < done)
    (h' : problem.AtBoundary start earlier stopper' state') :
    problem.cancellation (.beforeRound (earlier + 1)) state'.history = false ∧
      ∃ parent after, problem.Round (earlier + 1) parent state' after ∧
        (problem.observed stopper' after).shouldStop problem.config.patience = false := by
  induction h with
  | start => exact absurd hlt (Nat.not_lt_zero _)
  | next hprevious hunseen hround hgoing ih =>
    obtain hlt | rfl := Nat.lt_succ_iff_lt_or_eq.mp hlt
    · exact ih hlt
    · obtain ⟨rfl, rfl⟩ := hprevious.eq h'
      exact ⟨hunseen, _, _, hround, hgoing⟩

theorem AtBoundary.exists_earlier {start : SearchState α σ} {done : ℕ} {stopper : EarlyStopper α}
    {state : SearchState α σ} (h : problem.AtBoundary start done stopper state) {earlier : ℕ}
    (hle : earlier ≤ done) :
    ∃ stopper' state', problem.AtBoundary start earlier stopper' state' := by
  induction h with
  | start =>
    obtain rfl := Nat.le_zero.mp hle
    exact ⟨_, _, .start⟩
  | next hprevious hunseen hround hgoing ih =>
    obtain hle | rfl := Nat.le_succ_iff.mp hle
    · exact ih hle
    · exact ⟨_, _, hprevious.next hunseen hround hgoing⟩

theorem Passes.next {start before after : SearchState α σ} {done parent : ℕ}
    {states : ℕ → SearchState α σ} (h : problem.Passes start done before states)
    (hunseen : problem.cancellation (.beforeRound (done + 1)) before.history = false)
    (hround : problem.Round (done + 1) parent before after) :
    problem.Passes start (done + 1) after (Function.update states (done + 1) after) := by
  have hkept {k : ℕ} (hk : k ≤ done) :
      Function.update states (done + 1) after k = states k :=
    Function.update_of_ne (Nat.lt_succ_of_le hk).ne after states
  have hlast : Function.update states (done + 1) after (done + 1) = after :=
    Function.update_self (done + 1) after states
  refine ⟨?_, hlast, fun k hk ↦ ?_, fun k hk ↦ ?_⟩
  · rw [hkept (Nat.zero_le done), h.first]
  · rw [hkept (Nat.le_of_lt_succ hk)]
    obtain hk | rfl := Nat.lt_succ_iff_lt_or_eq.mp hk
    · exact h.unseen k hk
    · rwa [h.last]
  · rw [hkept (Nat.le_of_lt_succ hk)]
    obtain hk | rfl := Nat.lt_succ_iff_lt_or_eq.mp hk
    · rw [hkept (Nat.succ_le_of_lt hk)]
      exact h.round k hk
    · rw [hlast, h.last]
      exact ⟨parent, hround⟩

theorem AtBoundary.exists_passes {start state : SearchState α σ} {done : ℕ}
    {stopper : EarlyStopper α} (h : problem.AtBoundary start done stopper state) :
    ∃ states, problem.Passes start done state states := by
  induction h with
  | start => exact ⟨fun _ ↦ start, rfl, rfl, by simp, by simp⟩
  | next _ hunseen hround _ ih =>
    obtain ⟨states, hstates⟩ := ih
    exact ⟨_, hstates.next hunseen hround⟩

theorem Ends.exists_passes {start : SearchState α σ} {rounds : ℕ} {outcome : SearchOutcome α σ}
    (h : problem.Ends start rounds outcome) :
    ∃ states, problem.Passes start outcome.roundsCompleted outcome.final states := by
  cases h with
  | exhausted hboundary => exact hboundary.exists_passes
  | cancelled hboundary => exact hboundary.exists_passes
  | unselected hboundary => exact hboundary.exists_passes
  | stopped hboundary _ hunseen hround _ =>
    obtain ⟨states, hstates⟩ := hboundary.exists_passes
    exact ⟨_, hstates.next hunseen hround⟩

theorem ends_of_runRounds {start : SearchState α σ} {left done : ℕ} {stopper : EarlyStopper α}
    {state : SearchState α σ} {outcome : SearchOutcome α σ}
    (hboundary : problem.AtBoundary start done stopper state)
    (h : problem.runRounds left done stopper state = .ok outcome) :
    problem.Ends start (done + left) outcome := by
  induction left generalizing done stopper state with
  | zero =>
    obtain rfl := Except.ok.inj h
    exact .exhausted hboundary
  | succ left ih =>
    have hleft : done < done + (left + 1) := by omega
    unfold runRounds at h
    cases hcancelled : problem.cancellation (.beforeRound (done + 1)) state.history with
    | true =>
      simp only [hcancelled, if_true] at h
      obtain rfl := Except.ok.inj h
      exact .cancelled hboundary hleft hcancelled
    | false =>
      simp only [hcancelled, Bool.false_eq_true, if_false] at h
      cases hselected : state.tree.select? problem.config with
      | none =>
        simp only [hselected] at h
        obtain rfl := Except.ok.inj h
        exact .unselected hboundary hleft hcancelled hselected
      | some parent =>
        simp only [hselected] at h
        obtain ⟨next, hexpand, h⟩ := bind_eq_ok_iff.mp h
        have hround : problem.Round (done + 1) parent state next := ⟨hselected, hexpand⟩
        cases hstop : (problem.observed stopper next).shouldStop problem.config.patience with
        | true =>
          rw [observed] at hstop
          simp only [hstop, if_true] at h
          obtain rfl := Except.ok.inj h
          exact .stopped hboundary hleft hcancelled hround hstop
        | false =>
          have hnext := hboundary.next hcancelled hround hstop
          rw [observed] at hstop
          simp only [hstop, Bool.false_eq_true, if_false] at h
          have hends := ih hnext h
          rwa [Nat.add_right_comm, Nat.add_assoc] at hends

theorem AtBoundary.runRounds_eq {start : SearchState α σ} {done : ℕ} {stopper : EarlyStopper α}
    {state : SearchState α σ} (h : problem.AtBoundary start done stopper state) (left : ℕ) :
    problem.runRounds (done + left) 0 .initial start =
      problem.runRounds left done stopper state := by
  induction h generalizing left with
  | start => rw [Nat.zero_add]
  | next _ hunseen hround hgoing ih =>
    rw [observed] at hgoing ⊢
    rw [Nat.add_assoc, Nat.add_comm 1 left, ih, runRounds]
    simp only [hunseen, Bool.false_eq_true, if_false, hround.selected, hround.expanded, ok_bind,
      hgoing]

theorem runRounds_of_ends {start : SearchState α σ} {rounds : ℕ} {outcome : SearchOutcome α σ}
    (h : problem.Ends start rounds outcome) :
    problem.runRounds rounds 0 .initial start = .ok outcome := by
  have hrest {done : ℕ} (hlt : done < rounds) : ∃ left, rounds = done + (left + 1) := by
    obtain ⟨left, hleft⟩ := Nat.exists_eq_add_of_lt hlt
    exact ⟨left, hleft.trans (Nat.add_assoc ..)⟩
  cases h with
  | exhausted hboundary => exact hboundary.runRounds_eq 0
  | cancelled hboundary hlt hseen =>
    obtain ⟨left, rfl⟩ := hrest hlt
    rw [hboundary.runRounds_eq, runRounds]
    simp only [hseen, if_true]
  | unselected hboundary hlt hunseen hnone =>
    obtain ⟨left, rfl⟩ := hrest hlt
    rw [hboundary.runRounds_eq, runRounds]
    simp only [hunseen, Bool.false_eq_true, if_false, hnone]
  | stopped hboundary hlt hunseen hround hstop =>
    obtain ⟨left, rfl⟩ := hrest hlt
    rw [observed] at hstop
    rw [hboundary.runRounds_eq, runRounds]
    simp only [hunseen, Bool.false_eq_true, if_false, hround.selected, hround.expanded, ok_bind,
      hstop, if_true]
    rfl

omit [Scalar α] in
theorem roundLimit_eq (hfamilies : problem.families ≠ []) :
    problem.roundLimit = problem.config.rounds :=
  if_neg (by simpa using hfamilies)

theorem run_of_families_eq_nil (htrain : problem.train ≠ []) (hfamilies : problem.families = [])
    (root : Blueprint) (source : σ) (history : History) :
    problem.run root source history =
      .ok ⟨problem.seeded root source history, .budgetExhausted, 0⟩ := by
  rw [run, if_neg (by simpa using htrain), hfamilies]
  rfl

theorem run_eq_ok_iff (htrain : problem.train ≠ []) {root : Blueprint} {source : σ}
    {history : History} {outcome : SearchOutcome α σ} :
    problem.run root source history = .ok outcome ↔
      problem.Ends (problem.seeded root source history) problem.roundLimit outcome := by
  rw [run, if_neg (by simpa using htrain)]
  constructor
  · intro h
    have hends := ends_of_runRounds .start h
    rwa [Nat.zero_add] at hends
  · exact runRounds_of_ends

theorem ends_of_run (hfamilies : problem.families ≠ []) {root : Blueprint} {source : σ}
    {history : History} {outcome : SearchOutcome α σ}
    (h : problem.run root source history = .ok outcome) :
    problem.Ends (problem.seeded root source history) problem.config.rounds outcome := by
  rw [← roundLimit_eq hfamilies]
  exact (run_eq_ok_iff (reaches_of_run h).1).mp h

end Boundaries

end SearchProblem

end WorkflowSearch
