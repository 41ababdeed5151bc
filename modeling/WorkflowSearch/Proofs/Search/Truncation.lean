import WorkflowSearch.Proofs.Search.Capacity

namespace WorkflowSearch

variable {α σ : Type} [Scalar α]

def SearchOutcome.uncancelled (outcome : SearchOutcome α σ) : SearchOutcome α σ :=
  if outcome.stopReason = .cancelled then { outcome with stopReason := .budgetExhausted }
  else outcome

namespace SearchProblem

section Within

variable (problem : SearchProblem α)

def within (rounds : ℕ) (cancellation : Cancellation) : SearchProblem α :=
  { problem with config := { problem.config with rounds }, cancellation }

variable [RandomSource σ]

/-- A run that comes to the boundary after so many rounds is cancelled there, and not before. -/
structure CancelledFirstAt (start : SearchState α σ) (done : ℕ) : Prop where
  unseen : ∀ earlier < done, ∀ stopper state, problem.AtBoundary start earlier stopper state →
    problem.cancellation (.beforeRound (earlier + 1)) state.history = false
  seen : ∀ stopper state, problem.AtBoundary start done stopper state →
    problem.cancellation (.beforeRound (done + 1)) state.history = true

theorem expand_within (rounds : ℕ) (cancellation : Cancellation) (round parent left expansion : ℕ)
    (state : SearchState α σ) :
    (problem.within rounds cancellation).expand round parent left expansion state =
      problem.expand round parent left expansion state := by
  induction left generalizing expansion state with
  | zero => rfl
  | succ left ih =>
    simp only [expand, ih]
    rfl

variable {problem}

variable {rounds : ℕ} {cancellation : Cancellation}

theorem Round.within {round parent : ℕ} {before after : SearchState α σ}
    (h : problem.Round round parent before after) :
    (problem.within rounds cancellation).Round round parent before after :=
  ⟨h.selected, (problem.expand_within ..).trans h.expanded⟩

/-- A run that is not cancelled where another one passes comes to the same boundaries. -/
theorem AtBoundary.within {start state : SearchState α σ} {done : ℕ} {stopper : EarlyStopper α}
    (h : problem.AtBoundary start done stopper state)
    (hunseen : ∀ round history, problem.cancellation (.beforeRound round) history = false →
      cancellation (.beforeRound round) history = false) :
    (problem.within rounds cancellation).AtBoundary start done stopper state := by
  induction h with
  | start => exact .start
  | next _ hpassed hround hgoing ih => exact ih.next (hunseen _ _ hpassed) hround.within hgoing

section Cancelled

variable {start : SearchState α σ} {done : ℕ}

theorem CancelledFirstAt.le_of_atBoundary (h : problem.CancelledFirstAt start done) {later : ℕ}
    {stopper : EarlyStopper α} {state : SearchState α σ}
    (hboundary : problem.AtBoundary start later stopper state) : later ≤ done := by
  by_contra hlt
  obtain ⟨stopper', state', hcut⟩ := hboundary.exists_earlier (not_le.mp hlt).le
  have hpassed := (hboundary.passed_of_lt (not_le.mp hlt) hcut).1
  rw [h.seen stopper' state' hcut] at hpassed
  cases hpassed

theorem CancelledFirstAt.lt_of_unseen (h : problem.CancelledFirstAt start done) {later : ℕ}
    {stopper : EarlyStopper α} {state : SearchState α σ}
    (hboundary : problem.AtBoundary start later stopper state)
    (hunseen : problem.cancellation (.beforeRound (later + 1)) state.history = false) :
    later < done := by
  refine Nat.lt_of_le_of_ne (h.le_of_atBoundary hboundary) ?_
  rintro rfl
  rw [h.seen stopper state hboundary] at hunseen
  cases hunseen

theorem Ends.truncated (h : problem.CancelledFirstAt start done) (hlt : done < rounds)
    {outcome : SearchOutcome α σ} (hends : problem.Ends start rounds outcome) :
    (problem.within done .never).Ends start done outcome.uncancelled := by
  have hnever (round : ℕ) (history : History) :
      problem.cancellation (.beforeRound round) history = false →
        Cancellation.never (.beforeRound round) history = false := fun _ ↦ rfl
  cases hends with
  | exhausted hboundary => exact absurd hlt (not_lt.mpr (h.le_of_atBoundary hboundary))
  | @cancelled last _ _ hboundary _ hseen =>
    -- The first boundary at which it is cancelled can only be the last one that it comes to.
    obtain hearlier | rfl := Nat.lt_or_eq_of_le (h.le_of_atBoundary hboundary)
    · rw [h.unseen last hearlier _ _ hboundary] at hseen
      cases hseen
    · exact .exhausted (hboundary.within hnever)
  | unselected hboundary _ hunseen hnone =>
    exact .unselected (hboundary.within hnever) (h.lt_of_unseen hboundary hunseen) rfl hnone
  | stopped hboundary _ hunseen hround hstop =>
    exact .stopped (hboundary.within hnever) (h.lt_of_unseen hboundary hunseen) rfl hround.within
      hstop

theorem Ends.cancelledFirstAt {outcome : SearchOutcome α σ}
    (h : problem.Ends start rounds outcome) (hcancelled : outcome.stopReason = .cancelled) :
    outcome.roundsCompleted < rounds ∧ problem.CancelledFirstAt start outcome.roundsCompleted := by
  cases h with
  | exhausted => cases hcancelled
  | unselected => cases hcancelled
  | stopped => cases hcancelled
  | cancelled hboundary hlt hseen =>
    refine ⟨hlt, fun earlier hearlier stopper state hpassed ↦ ?_, fun stopper state hcut ↦ ?_⟩
    · exact (hboundary.passed_of_lt hearlier hpassed).1
    · obtain ⟨-, rfl⟩ := hboundary.eq hcut
      exact hseen

end Cancelled

variable {root : Blueprint} {source : σ} {history : History}

theorem run_within_never {done : ℕ}
    (h : problem.CancelledFirstAt (problem.seeded root source history) done)
    (hlt : done < problem.config.rounds) :
    (problem.within done .never).run root source history =
      (problem.run root source history).map SearchOutcome.uncancelled := by
  by_cases htrain : problem.train = []
  · have htrain' : (problem.within done .never).train = [] := htrain
    rw [run, run, htrain, htrain']
    rfl
  · have htrain' : (problem.within done .never).train ≠ [] := htrain
    by_cases hfamilies : problem.families = []
    · have hfamilies' : (problem.within done .never).families = [] := hfamilies
      rw [run_of_families_eq_nil htrain hfamilies, run_of_families_eq_nil htrain' hfamilies']
      rfl
    · have hfamilies' : (problem.within done .never).families ≠ [] := hfamilies
      obtain ⟨outcome, houtcome, -⟩ := run_reaches htrain root source history
      have hends := (ends_of_run hfamilies houtcome).truncated h hlt
      rw [houtcome]
      refine (run_eq_ok_iff htrain').mpr ?_
      rwa [roundLimit_eq hfamilies']

section Prefix

variable (hfamilies : problem.families ≠ [])
include hfamilies

variable {start state : SearchState α σ} {done : ℕ} {stopper : EarlyStopper α}
  (hstate : problem.AtBoundary start done stopper state)
include hstate

theorem AtBoundary.prefix_traces {later : ℕ} {stopper' : EarlyStopper α}
    {state' : SearchState α σ} (h : problem.AtBoundary start later stopper' state')
    (hle : done ≤ later) : state.traces <+: state'.traces := by
  induction h with
  | start =>
    obtain rfl := Nat.le_zero.mp hle
    obtain ⟨-, rfl⟩ := hstate.eq .start
    exact List.prefix_rfl
  | next hprevious hunseen hround hgoing ih =>
    obtain hle | rfl := Nat.le_succ_iff.mp hle
    · exact (ih hle).trans (hround.reaches hfamilies).prefix_traces
    · obtain ⟨-, rfl⟩ := hstate.eq (hprevious.next hunseen hround hgoing)
      exact List.prefix_rfl

theorem AtBoundary.prefix_traces_of_ends {outcome : SearchOutcome α σ}
    (h : problem.Ends start rounds outcome) (hle : done ≤ rounds) :
    state.traces <+: outcome.final.traces := by
  cases h with
  | exhausted hboundary => exact hstate.prefix_traces hfamilies hboundary hle
  | cancelled hboundary _ hseen =>
    refine hstate.prefix_traces hfamilies hboundary (not_lt.mp fun hlt ↦ ?_)
    have hpassed := (hstate.passed_of_lt hlt hboundary).1
    rw [hseen] at hpassed
    cases hpassed
  | unselected hboundary _ _ hnone =>
    refine hstate.prefix_traces hfamilies hboundary (not_lt.mp fun hlt ↦ ?_)
    obtain ⟨-, _, _, hround, -⟩ := hstate.passed_of_lt hlt hboundary
    exact absurd (hround.selected.symm.trans hnone) (Option.some_ne_none _)
  | stopped hboundary _ _ hround hstop =>
    refine (hstate.prefix_traces hfamilies hboundary (not_lt.mp fun hlt ↦ ?_)).trans
      (hround.reaches hfamilies).prefix_traces
    obtain ⟨-, _, _, hround', hgoing⟩ := hstate.passed_of_lt hlt hboundary
    obtain rfl := hround.eq hround'
    rw [hstop] at hgoing
    cases hgoing

end Prefix

theorem prefix_traces_of_le {fewer more : ℕ} (hle : fewer ≤ more)
    {shorter longer : SearchOutcome α σ}
    (hshorter :
      (problem.within fewer problem.cancellation).run root source history = .ok shorter)
    (hlonger : (problem.within more problem.cancellation).run root source history = .ok longer) :
    shorter.final.traces <+: longer.final.traces := by
  obtain ⟨hfewer, -⟩ := reaches_of_run hshorter
  obtain ⟨hmore, -⟩ := reaches_of_run hlonger
  by_cases hfamilies : (problem.within more problem.cancellation).families = []
  · have hfamilies' : (problem.within fewer problem.cancellation).families = [] := hfamilies
    rw [run_of_families_eq_nil hfewer hfamilies'] at hshorter
    rw [run_of_families_eq_nil hmore hfamilies] at hlonger
    obtain rfl := Except.ok.inj hshorter
    obtain rfl := Except.ok.inj hlonger
    exact List.prefix_rfl
  · have hfamilies' : (problem.within fewer problem.cancellation).families ≠ [] := hfamilies
    have hends := ends_of_run hfamilies hlonger
    have hkept {start state : SearchState α σ} {done : ℕ} {stopper : EarlyStopper α}
        (h : (problem.within fewer problem.cancellation).AtBoundary start done stopper state) :
        (problem.within more problem.cancellation).AtBoundary start done stopper state :=
      h.within fun _ _ ↦ id
    have hsame (h : (problem.within more problem.cancellation).Ends
        (problem.seeded root source history) more shorter) :
        shorter.final.traces <+: longer.final.traces := by
      obtain rfl := Except.ok.inj ((runRounds_of_ends h).symm.trans (runRounds_of_ends hends))
      exact List.prefix_rfl
    cases ends_of_run hfamilies' hshorter with
    | exhausted hboundary => exact (hkept hboundary).prefix_traces_of_ends hfamilies hends hle
    | cancelled hboundary hlt hseen =>
      exact hsame (.cancelled (hkept hboundary) (hlt.trans_le hle) hseen)
    | unselected hboundary hlt hunseen hnone =>
      exact hsame (.unselected (hkept hboundary) (hlt.trans_le hle) hunseen hnone)
    | stopped hboundary hlt hunseen hround hstop =>
      exact hsame (.stopped (hkept hboundary) (hlt.trans_le hle) hunseen hround.within hstop)

/-- A cancellation cuts a run short. A run that is cancelled ends in the state of the run of the
rounds that it completed, as does, but for the reason, every run that is cancelled first before a
round if it comes so far. The log of a run begins with that of a run of fewer rounds. -/
theorem run_truncates (problem : SearchProblem α) (root : Blueprint) (source : σ)
    (history : History) :
    (∀ outcome, problem.run root source history = .ok outcome → outcome.stopReason = .cancelled →
      (problem.within outcome.roundsCompleted .never).run root source history =
        .ok { outcome with stopReason := .budgetExhausted }) ∧
    (∀ done < problem.config.rounds,
      problem.CancelledFirstAt (problem.seeded root source history) done →
        (problem.within done .never).run root source history =
          (problem.run root source history).map SearchOutcome.uncancelled) ∧
    ∀ fewer more, fewer ≤ more → ∀ shorter,
      (problem.within fewer problem.cancellation).run root source history = .ok shorter →
        ∃ longer, (problem.within more problem.cancellation).run root source history = .ok longer ∧
          shorter.final.traces <+: longer.final.traces := by
  refine ⟨fun outcome houtcome hcancelled ↦ ?_, fun done hlt hfirst ↦ run_within_never hfirst hlt,
    fun fewer more hle shorter hshorter ↦ ?_⟩
  · have hends := (run_eq_ok_iff (reaches_of_run houtcome).1).mp houtcome
    obtain ⟨hlt, hfirst⟩ := hends.cancelledFirstAt hcancelled
    have hlimit : problem.roundLimit ≤ problem.config.rounds := by
      unfold roundLimit
      split
      · exact Nat.zero_le _
      · exact le_rfl
    rw [run_within_never hfirst (hlt.trans_le hlimit), houtcome]
    exact congrArg Except.ok (if_pos hcancelled)
  · have htrain : (problem.within more problem.cancellation).train ≠ [] :=
      (reaches_of_run hshorter).1
    obtain ⟨longer, hlonger, -⟩ := run_reaches htrain root source history
    exact ⟨longer, hlonger, prefix_traces_of_le hle hshorter hlonger⟩

end Within

def cancelledProblem : SearchProblem ℚ :=
  simulatedProblem.within 3 fun boundary _ ↦ decide (boundary = .beforeRound 2)

theorem cancelledProblem_truncates :
    let source := ChaCha.ofSeed 0
    cancelledProblem.CancelledFirstAt (cancelledProblem.seeded simulatedRoot source []) 1 ∧
      ∃ final longer,
        cancelledProblem.run simulatedRoot source [] = .ok ⟨final, .cancelled, 1⟩ ∧
        (cancelledProblem.within 1 .never).run simulatedRoot source [] =
          .ok ⟨final, .budgetExhausted, 1⟩ ∧
        (cancelledProblem.within 1 .never).run simulatedRoot source [] =
          (cancelledProblem.run simulatedRoot source []).map SearchOutcome.uncancelled ∧
        (cancelledProblem.within 4 cancelledProblem.cancellation).run simulatedRoot source [] =
          .ok longer ∧
        final.traces <+: longer.final.traces := by
  intro source
  have hfamilies : cancelledProblem.families ≠ [] := simulatedProblem_families_ne_nil
  have htrain : cancelledProblem.train ≠ [] := simulatedProblem_train_ne_nil
  have hvalid : cancelledProblem.config.Valid :=
    (SearchConfig.validate_eq_ok_iff _).mp (eq_ok_of_isOk (by decide +kernel))
  have hfirst : cancelledProblem.CancelledFirstAt
      (cancelledProblem.seeded simulatedRoot source []) 1 := by
    refine ⟨fun earlier hearlier _ _ _ ↦ ?_, fun _ _ _ ↦ rfl⟩
    obtain rfl := Nat.lt_one_iff.mp hearlier
    rfl
  -- The run comes through its first round.
  obtain ⟨node, -, hselected, -⟩ := Reaches.exists_foremost hvalid
    (.refl : cancelledProblem.Reaches (cancelledProblem.seeded simulatedRoot source []) _)
  obtain ⟨final, _, hexpand, -⟩ := expand_inRound hfamilies
    (.start : cancelledProblem.InRound 1 node.id
      (cancelledProblem.seeded simulatedRoot source []) 0 _)
    cancelledProblem.config.expansionsPerRound
  have hboundary := AtBoundary.start.next rfl ⟨hselected, hexpand⟩ rfl
  have houtcome : cancelledProblem.run simulatedRoot source [] = .ok ⟨final, .cancelled, 1⟩ := by
    rw [run_eq_ok_iff htrain, roundLimit_eq hfamilies]
    exact .cancelled hboundary (by decide) rfl
  obtain ⟨hsame, hcut, hlonger⟩ := run_truncates cancelledProblem simulatedRoot source []
  obtain ⟨longer, hrun, htraces⟩ := hlonger 3 4 (by omega) _ houtcome
  exact ⟨hfirst, final, longer, houtcome, hsame _ houtcome rfl, hcut 1 (by decide) hfirst, hrun,
    htraces⟩

end SearchProblem

end WorkflowSearch
