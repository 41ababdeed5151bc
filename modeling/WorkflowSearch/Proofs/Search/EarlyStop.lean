import WorkflowSearch.Proofs.Scalar.Exact
import WorkflowSearch.Proofs.Search.Capacity

namespace WorkflowSearch

variable {α σ : Type}

def Improving (traces : List (TraceEntry α)) (round : ℕ) : Prop :=
  ∃ entry ∈ traces, entry.round = round ∧ entry.becameBest = true

theorem improving_append {traces entries : List (TraceEntry α)} {round : ℕ} :
    Improving (traces ++ entries) round ↔ Improving traces round ∨ Improving entries round := by
  simp only [Improving, List.mem_append, or_and_right, exists_or]

theorem Improving.exists_round {traces : List (TraceEntry α)} {round : ℕ}
    (h : Improving traces round) : ∃ entry ∈ traces, entry.round = round := by
  obtain ⟨entry, hentry, hround, -⟩ := h
  exact ⟨entry, hentry, hround⟩

/-- The last `count` rounds up to `round` come after the first one, and none of them improves. -/
def Stale (traces : List (TraceEntry α)) (count round : ℕ) : Prop :=
  ∀ k, round < k + count → k ≤ round → 2 ≤ k ∧ ¬ Improving traces k

theorem stale_zero (traces : List (TraceEntry α)) (round : ℕ) : Stale traces 0 round := by
  intro k hlt hle
  omega

theorem stale_iff_of_lt_two {traces : List (TraceEntry α)} {count round : ℕ} (h : round < 2) :
    Stale traces count round ↔ count = 0 := by
  constructor
  · intro hstale
    by_contra hcount
    have hround := (hstale round (by omega) le_rfl).1
    omega
  · rintro rfl
    exact stale_zero traces round

theorem stale_succ_iff {traces : List (TraceEntry α)} {count round : ℕ} (h : 1 ≤ round) :
    Stale traces (count + 1) (round + 1) ↔
      ¬ Improving traces (round + 1) ∧ Stale traces count round := by
  constructor
  · intro hstale
    refine ⟨(hstale (round + 1) (by omega) le_rfl).2, fun k hlt hle ↦ ?_⟩
    exact hstale k (by omega) (by omega)
  · rintro ⟨hlast, hstale⟩ k hlt hle
    obtain hle | rfl := Nat.le_succ_iff.mp hle
    · exact hstale k (by omega) hle
    · exact ⟨by omega, hlast⟩

theorem Stale.add_two_le {traces : List (TraceEntry α)} {count round : ℕ}
    (h : Stale traces (count + 1) round) : count + 2 ≤ round := by
  have hfirst := (h (round - count) (by omega) (Nat.sub_le round count)).1
  omega

theorem stale_append {traces entries : List (TraceEntry α)} {count round : ℕ}
    (h : ∀ entry ∈ entries, round < entry.round) :
    Stale (traces ++ entries) count round ↔ Stale traces count round := by
  have himproving {k : ℕ} (hk : k ≤ round) :
      Improving (traces ++ entries) k ↔ Improving traces k := by
    rw [improving_append, or_iff_left]
    intro hlater
    obtain ⟨entry, hentry, rfl⟩ := hlater.exists_round
    exact absurd (h entry hentry) (not_lt.mpr hk)
  constructor
  · intro hstale k hlt hle
    rw [← himproving hle]
    exact hstale k hlt hle
  · intro hstale k hlt hle
    rw [himproving hle]
    exact hstale k hlt hle

namespace EarlyStopper

/-- The stopper has the best score from the first round on, and its count is that of the last stale
rounds. -/
structure Follows (stopper : EarlyStopper α) (done : ℕ) (state : SearchState α σ) : Prop where
  best : stopper.best = if done = 0 then none else some state.bestSelection
  le_stalled_iff : ∀ count, count ≤ stopper.stalled ↔ Stale state.traces count done
  round_le : ∀ entry ∈ state.traces, entry.round ≤ done

theorem follows_initial {start : SearchState α σ} (hstart : start.traces = []) :
    initial.Follows 0 start := by
  refine ⟨rfl, fun count ↦ ?_, by simp [hstart]⟩
  rw [stale_iff_of_lt_two (by omega)]
  exact Nat.le_zero

variable {stopper : EarlyStopper α}

theorem shouldStop_iff {patience : ℕ} :
    stopper.shouldStop patience = true ↔ patience + 1 ≤ stopper.stalled :=
  decide_eq_true_iff

variable [Scalar α]

theorem observe_first (h : stopper.best = none) (minImprovement roundBest : α) :
    stopper.observe minImprovement roundBest = ⟨some roundBest, stopper.stalled⟩ := by
  simp only [observe, h]

theorem observe_gain {minImprovement roundBest best : α} (h : stopper.best = some best)
    (hgain : minImprovement ≤ roundBest - best) :
    stopper.observe minImprovement roundBest = ⟨some roundBest, 0⟩ := by
  simp only [observe, h, if_pos hgain]

theorem observe_stall {minImprovement roundBest best : α} (h : stopper.best = some best)
    (hstall : ¬ minImprovement ≤ roundBest - best) :
    stopper.observe minImprovement roundBest = ⟨some best, stopper.stalled + 1⟩ := by
  simp only [observe, h, if_neg hstall]

end EarlyStopper

namespace SearchProblem

section Log

variable [Scalar α] [RandomSource σ] {problem : SearchProblem α}

theorem Round.stale_iff (hfamilies : problem.families ≠ []) {round parent : ℕ}
    {before after : SearchState α σ} (h : problem.Round round parent before after) {count k : ℕ}
    (hk : k < round) : Stale after.traces count k ↔ Stale before.traces count k := by
  obtain ⟨entries, htraces, hrounds⟩ := h.exists_entries hfamilies
  rw [htraces]
  exact stale_append fun entry hentry ↦ (hrounds entry hentry).symm ▸ hk

end Log

section Exact

variable [ExactScalar α] [RandomSource σ] {problem : SearchProblem α}

theorem InRound.gain (hmin : 0 < problem.config.minImprovement) {round parent expansions : ℕ}
    {start state : SearchState α σ} (h : problem.InRound round parent start expansions state)
    (hstart : ¬ Improving start.traces round) :
    (Improving state.traces round →
      start.bestSelection + problem.config.minImprovement ≤ state.bestSelection) ∧
    (¬ Improving state.traces round → state.bestSelection = start.bestSelection) := by
  induction h with
  | start => exact ⟨fun h ↦ absurd h hstart, fun _ ↦ rfl⟩
  | @next expansion before after _ hlast ih =>
    obtain ⟨hgain, hstay⟩ := ih
    obtain ⟨_, _, entry, -, -, hexpanded⟩ := hlast.exists_expanded
    have hcompares := hexpanded.compares
    have hgrows : start.bestSelection ≤ before.bestSelection := by
      by_cases hbefore : Improving before.traces round
      · have := hgain hbefore
        linarith
      · exact (hstay hbefore).ge
    have hentry : Improving [entry] round ↔ entry.becameBest = true := by
      simp [Improving, hexpanded.round]
    rw [hexpanded.traces, improving_append, hentry, hexpanded.bestSelection,
      hcompares.bestSelectionScore]
    -- A later entry that becomes the best gains over a score that is no less than the first.
    by_cases hbecame : entry.becameBest = true
    · have himprovement := hcompares.becameBest_iff.mp hbecame
      rw [hcompares.improvement] at himprovement
      rw [if_pos hbecame]
      exact ⟨fun _ ↦ by linarith, fun hnot ↦ absurd (.inr hbecame) hnot⟩
    · rw [if_neg hbecame, or_iff_left hbecame]
      exact ⟨hgain, hstay⟩

/-- The stopper goes on following a round: the best scores after two rounds lie the least
improvement apart exactly if the later one is improving. -/
theorem follows_observed (hmin : 0 < problem.config.minImprovement)
    (hfamilies : problem.families ≠ [])
    {stopper : EarlyStopper α} {done parent : ℕ} {before after : SearchState α σ}
    (h : stopper.Follows done before) (hround : problem.Round (done + 1) parent before after) :
    (problem.observed stopper after).Follows (done + 1) after := by
  have hstale (count : ℕ) : Stale after.traces count done ↔ Stale before.traces count done :=
    hround.stale_iff hfamilies (Nat.lt_succ_self done)
  have hrounds : ∀ entry ∈ after.traces, entry.round ≤ done + 1 := by
    obtain ⟨entries, htraces, hentries⟩ := hround.exists_entries hfamilies
    rw [htraces, List.forall_mem_append]
    refine ⟨fun entry hentry ↦ ?_, fun entry hentry ↦ (hentries entry hentry).le⟩
    exact (h.round_le entry hentry).trans (Nat.le_succ done)
  have hbest := h.best
  cases done with
  | zero =>
    -- Whatever the first round gains over the root, the stopper only takes in its best score.
    rw [observed, EarlyStopper.observe_first hbest]
    refine ⟨rfl, fun count ↦ ?_, hrounds⟩
    rw [h.le_stalled_iff, stale_iff_of_lt_two (by omega), stale_iff_of_lt_two (by omega)]
  | succ done =>
    have hbefore : ¬ Improving before.traces (done + 2) := by
      intro himproving
      obtain ⟨entry, hentry, hlate⟩ := himproving.exists_round
      have hround := h.round_le entry hentry
      omega
    obtain ⟨_, hin⟩ := hround.exists_inRound hfamilies
    obtain ⟨hgain, hstay⟩ := hin.gain hmin hbefore
    by_cases himproving : Improving after.traces (done + 2)
    · have hgain := hgain himproving
      rw [observed, EarlyStopper.observe_gain hbest (by linarith)]
      refine ⟨rfl, fun count ↦ ?_, hrounds⟩
      cases count with
      | zero => exact iff_of_true le_rfl (stale_zero _ _)
      | succ count =>
        rw [stale_succ_iff (by omega)]
        exact iff_of_false (Nat.not_succ_le_zero count) fun hstale ↦ hstale.1 himproving
    · have hstay := hstay himproving
      rw [observed, EarlyStopper.observe_stall hbest (by rw [hstay]; linarith)]
      refine ⟨congrArg some hstay.symm, fun count ↦ ?_, hrounds⟩
      cases count with
      | zero => exact iff_of_true (Nat.zero_le _) (stale_zero _ _)
      | succ count =>
        rw [stale_succ_iff (by omega), and_iff_right himproving, hstale, ← h.le_stalled_iff]
        exact Nat.succ_le_succ_iff

variable (hmin : 0 < problem.config.minImprovement) (hfamilies : problem.families ≠ [])
  {start : SearchState α σ} (hstart : start.traces = [])
include hmin hfamilies hstart

theorem AtBoundary.follows {stopper : EarlyStopper α} {done : ℕ} {state : SearchState α σ}
    (h : problem.AtBoundary start done stopper state) : stopper.Follows done state := by
  induction h with
  | start => exact EarlyStopper.follows_initial hstart
  | next _ _ hround _ ih => exact follows_observed hmin hfamilies ih hround

theorem AtBoundary.not_stale {stopper : EarlyStopper α} {done : ℕ} {state : SearchState α σ}
    (h : problem.AtBoundary start done stopper state) {k : ℕ} (hk : k ≤ done) :
    ¬ Stale state.traces (problem.config.patience + 1) k := by
  induction h with
  | start =>
    rw [stale_iff_of_lt_two (by omega)]
    exact Nat.succ_ne_zero _
  | next hprevious hunseen hround hgoing ih =>
    obtain hk | rfl := Nat.le_succ_iff.mp hk
    · rw [hround.stale_iff hfamilies (Nat.lt_succ_of_le hk)]
      exact ih hk
    · have hfollows := (hprevious.next hunseen hround hgoing).follows hmin hfamilies hstart
      rw [← hfollows.le_stalled_iff, ← EarlyStopper.shouldStop_iff, hgoing]
      exact Bool.false_ne_true

theorem Ends.stale_iff {rounds : ℕ} {outcome : SearchOutcome α σ}
    (h : problem.Ends start rounds outcome) :
    (∀ k < outcome.roundsCompleted,
      ¬ Stale outcome.final.traces (problem.config.patience + 1) k) ∧
    (Stale outcome.final.traces (problem.config.patience + 1) outcome.roundsCompleted ↔
      outcome.stopReason = .earlyStopped) := by
  have hgoing {stopper : EarlyStopper α} {done : ℕ} {state : SearchState α σ} {reason : StopReason}
      (hboundary : problem.AtBoundary start done stopper state) (hreason : reason ≠ .earlyStopped) :
      (∀ k < done, ¬ Stale state.traces (problem.config.patience + 1) k) ∧
        (Stale state.traces (problem.config.patience + 1) done ↔ reason = .earlyStopped) := by
    have hnot {k : ℕ} (hk : k ≤ done) := hboundary.not_stale hmin hfamilies hstart hk
    exact ⟨fun k hk ↦ hnot hk.le, iff_of_false (hnot le_rfl) hreason⟩
  cases h with
  | exhausted hboundary => exact hgoing hboundary (by simp)
  | cancelled hboundary => exact hgoing hboundary (by simp)
  | unselected hboundary => exact hgoing hboundary (by simp)
  | stopped hboundary _ _ hround hstop =>
    have hfollows :=
      follows_observed hmin hfamilies (hboundary.follows hmin hfamilies hstart) hround
    constructor
    · intro k hk
      rw [hround.stale_iff hfamilies hk]
      exact hboundary.not_stale hmin hfamilies hstart (Nat.le_of_lt_succ hk)
    · rw [EarlyStopper.shouldStop_iff, hfollows.le_stalled_iff] at hstop
      exact iff_of_true hstop rfl

end Exact

/-- Over exact numbers a run stops early after a round exactly if that is the first one, of those
that the run comes to, with which the patience is used up: it and as many before it as the patience
allows come after the first round, and none of them is improving. Otherwise the run completes its
rounds, unless it is cancelled before one of them. -/
theorem run_stops_early_iff [ExactScalar α] [RandomSource σ] {problem : SearchProblem α}
    (hvalid : problem.config.validate = .ok ()) (hfamilies : problem.families ≠ [])
    {root : Blueprint} {source : σ} {history : History} {outcome : SearchOutcome α σ}
    (h : problem.run root source history = .ok outcome) :
    let patience := problem.config.patience
    let traces := outcome.final.traces
    let completed := outcome.roundsCompleted
    (∀ round, outcome.stopReason = .earlyStopped ∧ completed = round ↔
      round ≤ completed ∧ Stale traces (patience + 1) round ∧
        ∀ earlier < round, ¬ Stale traces (patience + 1) earlier) ∧
      (outcome.stopReason = .earlyStopped → patience + 2 ≤ completed) ∧
      (outcome.stopReason = .budgetExhausted → completed = problem.config.rounds) ∧
      (outcome.stopReason = .cancelled → completed < problem.config.rounds ∧
        problem.cancellation (.beforeRound (completed + 1)) outcome.final.history = true) := by
  intro patience traces completed
  have hvalid := (SearchConfig.validate_eq_ok_iff _).mp hvalid
  have hmin : 0 < problem.config.minImprovement := by
    have hpositive := hvalid.minImprovement
    rw [Scalar.isPositive, Bool.and_eq_true, decide_eq_true_iff] at hpositive
    exact hpositive.2
  obtain ⟨node, hseeded⟩ := problem.exists_seeded root source history
  have hends := ends_of_run hfamilies h
  obtain ⟨hearlier, hlast⟩ := hends.stale_iff hmin hfamilies hseeded.traces
  refine ⟨fun round ↦ ⟨?_, ?_⟩, fun hstopped ↦ (hlast.mpr hstopped).add_two_le,
    roundsCompleted_of_exhausted hvalid hfamilies h, fun hcancelled ↦ ?_⟩
  · rintro ⟨hstopped, rfl⟩
    exact ⟨le_rfl, hlast.mpr hstopped, hearlier⟩
  · rintro ⟨hround, hstale, -⟩
    obtain hlt | rfl := Nat.lt_or_eq_of_le hround
    · exact absurd hstale (hearlier round hlt)
    · exact ⟨hlast.mp hstale, rfl⟩
  · cases hends with
    | exhausted => cases hcancelled
    | unselected => cases hcancelled
    | stopped => cases hcancelled
    | cancelled _ hleft hseen => exact ⟨hleft, hseen⟩

theorem simulatedProblem_stops_early :
    simulatedProblem.config.validate = .ok () ∧ simulatedProblem.families ≠ [] ∧
      ∃ outcome, simulatedProblem.run simulatedRoot (ChaCha.ofSeed 0) [] = .ok outcome ∧
        (outcome.stopReason = .earlyStopped → 5 ≤ outcome.roundsCompleted) := by
  obtain ⟨outcome, houtcome, -⟩ :=
    run_reaches simulatedProblem_train_ne_nil simulatedRoot (ChaCha.ofSeed 0) []
  obtain ⟨-, hearly, -⟩ :=
    run_stops_early_iff simulatedProblem_valid simulatedProblem_families_ne_nil houtcome
  exact ⟨simulatedProblem_valid, simulatedProblem_families_ne_nil, outcome, houtcome, hearly⟩

end SearchProblem

end WorkflowSearch
