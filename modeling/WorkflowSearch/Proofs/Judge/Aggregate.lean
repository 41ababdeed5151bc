import Mathlib.Algebra.Order.BigOperators.Group.List
import Mathlib.Data.Set.Finite.Lemmas
import Mathlib.Tactic.Ring
import WorkflowSearch.Judge.Ensemble
import WorkflowSearch.Proofs.Scalar.Roots

namespace WorkflowSearch

def JudgeWeights.scaled {α : Type} [Scalar α] (weights : JudgeWeights α) (c : α) :
    JudgeWeights α :=
  ⟨c * weights.rule, c * weights.heuristic, c * weights.rubric⟩

@[simp]
theorem JudgeWeights.weight_scaled {α : Type} [Scalar α] (weights : JudgeWeights α) (c : α)
    (judge : JudgeKind) : (weights.scaled c).weight judge = c * weights.weight judge := by
  cases judge <;> rfl

namespace Aggregate

structure InRange {α : Type} [Scalar α] (aggregate : Aggregate α) : Prop where
  score : 0 ≤ aggregate.score ∧ aggregate.score ≤ 1
  agreement : 0 ≤ aggregate.agreement ∧ aggregate.agreement ≤ 1
  confidence : 0 ≤ aggregate.confidence ∧ aggregate.confidence ≤ 1

section Mean

variable {α : Type} [ExactScalar α] {votes votes' : List (JudgeVote α)} {weights : JudgeWeights α}
  {f g : JudgeVote α → α}

theorem weightedMean_perm (h : votes.Perm votes') (f : JudgeVote α → α) :
    weightedMean votes weights f = weightedMean votes' weights f := by
  simp only [weightedMean, totalWeight, ExactScalar.sum_eq_sum]
  rw [(h.map _).sum_eq, (h.map _).sum_eq]

theorem totalWeight_scaled (c : α) :
    totalWeight votes (weights.scaled c) = c * totalWeight votes weights := by
  simp only [totalWeight, ExactScalar.sum_eq_sum, JudgeWeights.weight_scaled, List.sum_map_mul_left]

theorem weightedMean_scaled {c : α} (hc : c ≠ 0) (f : JudgeVote α → α) :
    weightedMean votes (weights.scaled c) f = weightedMean votes weights f := by
  rw [weightedMean, totalWeight_scaled]
  simp only [weightedMean, ExactScalar.sum_eq_sum, JudgeWeights.weight_scaled, mul_assoc,
    List.sum_map_mul_left]
  exact mul_div_mul_left _ _ hc

section Weighed

variable (hsome : votes ≠ []) (hweights : ∀ v ∈ votes, 0 < weights.weight v.judge)
include hsome hweights

theorem totalWeight_pos : 0 < totalWeight votes weights := by
  rw [totalWeight, ExactScalar.sum_eq_sum]
  exact List.sum_pos _ (List.forall_mem_map.mpr hweights) (by simpa using hsome)

theorem weightedMean_mono (h : ∀ v ∈ votes, f v ≤ g v) :
    weightedMean votes weights f ≤ weightedMean votes weights g := by
  have hsum : (votes.map fun v ↦ weights.weight v.judge * f v).sum ≤
      (votes.map fun v ↦ weights.weight v.judge * g v).sum :=
    List.sum_le_sum fun v hv ↦ mul_le_mul_of_nonneg_left (h v hv) (hweights v hv).le
  simp only [weightedMean, ExactScalar.sum_eq_sum]
  exact div_le_div_of_nonneg_right hsum (totalWeight_pos hsome hweights).le

theorem weightedMean_affine (a b : α) :
    weightedMean votes weights (fun v ↦ a * f v + b) = a * weightedMean votes weights f + b := by
  have hpos := totalWeight_pos hsome hweights
  have hterm (v : JudgeVote α) : weights.weight v.judge * (a * f v + b) =
      a * (weights.weight v.judge * f v) + weights.weight v.judge * b := by
    ring
  have hsum : (votes.map fun v ↦ weights.weight v.judge * (a * f v + b)).sum =
      a * (votes.map fun v ↦ weights.weight v.judge * f v).sum +
        totalWeight votes weights * b := by
    simp only [hterm, List.sum_map_add, List.sum_map_mul_left, List.sum_map_mul_right, totalWeight,
      ExactScalar.sum_eq_sum]
  simp only [weightedMean, ExactScalar.sum_eq_sum, hsum]
  rw [add_div, mul_div_assoc, mul_div_cancel_left₀ b hpos.ne']

theorem weightedMean_const (b : α) : weightedMean votes weights (fun _ ↦ b) = b := by
  have haffine := weightedMean_affine (f := fun _ ↦ 0) hsome hweights 0 b
  simpa using haffine

theorem weightedMean_eq_zero_iff (h : ∀ v ∈ votes, 0 ≤ f v) :
    weightedMean votes weights f = 0 ↔ ∀ v ∈ votes, f v = 0 := by
  have hpos := totalWeight_pos hsome hweights
  have hterms : ∀ a ∈ votes.map fun v ↦ weights.weight v.judge * f v, 0 ≤ a :=
    List.forall_mem_map.mpr fun v hv ↦ mul_nonneg (hweights v hv).le (h v hv)
  have hzero (v : JudgeVote α) (hv : v ∈ votes) : weights.weight v.judge * f v = 0 ↔ f v = 0 :=
    mul_eq_zero_iff_left (hweights v hv).ne'
  rw [weightedMean, div_eq_zero_iff, or_iff_left hpos.ne', ExactScalar.sum_eq_sum]
  constructor
  · intro hsum v hv
    exact (hzero v hv).mp
      (List.all_zero_of_le_zero_le_of_sum_eq_zero hterms hsum (List.mem_map_of_mem hv))
  · intro hall
    exact List.sum_eq_zero (List.forall_mem_map.mpr fun v hv ↦ (hzero v hv).mpr (hall v hv))

theorem weightedMean_between {lo hi : α} (h : ∀ v ∈ votes, lo ≤ f v ∧ f v ≤ hi) :
    lo ≤ weightedMean votes weights f ∧ weightedMean votes weights f ≤ hi := by
  have hlo := weightedMean_mono (f := fun _ ↦ lo) hsome hweights fun v hv ↦ (h v hv).1
  have hhi := weightedMean_mono (g := fun _ ↦ hi) hsome hweights fun v hv ↦ (h v hv).2
  rw [weightedMean_const hsome hweights] at hlo hhi
  exact ⟨hlo, hhi⟩

theorem variance_nonneg : 0 ≤ variance votes weights := by
  have hmono := weightedMean_mono (f := fun _ ↦ 0) hsome hweights
    fun v _ ↦ mul_self_nonneg (v.score - meanScore votes weights)
  rwa [weightedMean_const hsome hweights] at hmono

theorem variance_le (hscores : ∀ v ∈ votes, 0 ≤ v.score ∧ v.score ≤ 1) :
    variance votes weights ≤ 1 / 4 := by
  -- A score from zero to one is at least its square, so that the variance is at most the product of
  -- the mean and what the mean lacks to one.
  set mean := meanScore votes weights with hmean
  have hterm (v : JudgeVote α) (hv : v ∈ votes) :
      Scalar.square (v.score - mean) ≤ (1 - 2 * mean) * v.score + mean * mean := by
    obtain ⟨hlo, hhi⟩ := hscores v hv
    have hsquare : v.score * v.score ≤ v.score := mul_le_of_le_one_right hlo hhi
    have hexpand : Scalar.square (v.score - mean) =
        v.score * v.score - 2 * mean * v.score + mean * mean := by
      rw [Scalar.square]
      ring
    linarith
  calc variance votes weights
      ≤ weightedMean votes weights fun v ↦ (1 - 2 * mean) * v.score + mean * mean :=
        weightedMean_mono hsome hweights hterm
    _ = (1 - 2 * mean) * mean + mean * mean := weightedMean_affine hsome hweights _ _
    _ = 1 / 4 - (mean - 1 / 2) * (mean - 1 / 2) := by ring
    _ ≤ 1 / 4 := sub_le_self _ (mul_self_nonneg _)

theorem variance_eq_zero_iff :
    variance votes weights = 0 ↔ ∀ v ∈ votes, ∀ v' ∈ votes, v.score = v'.score := by
  have hsquares (v : JudgeVote α) : Scalar.square (v.score - meanScore votes weights) = 0 ↔
      v.score = meanScore votes weights := mul_self_eq_zero.trans sub_eq_zero
  have hvariance : variance votes weights = 0 ↔ ∀ v ∈ votes, v.score = meanScore votes weights :=
    (weightedMean_eq_zero_iff hsome hweights fun _ _ ↦ mul_self_nonneg _).trans
      (forall₂_congr fun v _ ↦ hsquares v)
  rw [hvariance]
  constructor
  · intro hall v hv v' hv'
    rw [hall v hv, hall v' hv']
  · intro hall v hv
    obtain ⟨hlo, hhi⟩ := weightedMean_between (f := (·.score)) hsome hweights
      fun v' hv' ↦ ⟨(hall v hv v' hv').le, (hall v' hv' v hv).le⟩
    exact le_antisymm hlo hhi

end Weighed

end Mean

section Rooted

variable {α : Type} [RootedScalar α] {votes votes' : List (JudgeVote α)} {weights : JudgeWeights α}

theorem maxSpread_eq : (maxSpread : α) = 1 / 2 := by
  rw [maxSpread, ExactScalar.ofScientific_eq]
  norm_num

/-- One less the standard deviation, in units of the greatest one. -/
def unanimity (votes : List (JudgeVote α)) (weights : JudgeWeights α) : α :=
  1 - Scalar.sqrt (variance votes weights) / maxSpread

def unclamped (votes : List (JudgeVote α)) (weights : JudgeWeights α) : Aggregate α :=
  let score := meanScore votes weights
  let agreement := unanimity votes weights
  ⟨score, agreement, 0.5 * score + 0.5 * agreement⟩

theorem unclamped_congr {weights' : JudgeWeights α}
    (h : ∀ f, weightedMean votes weights f = weightedMean votes' weights' f) :
    unclamped votes weights = unclamped votes' weights' := by
  have hmean : meanScore votes weights = meanScore votes' weights' := h _
  have hvariance : variance votes weights = variance votes' weights' := by
    rw [variance, variance, hmean]
    exact h _
  rw [unclamped, unclamped, unanimity, unanimity, hmean, hvariance]

theorem unanimity_le_one : unanimity votes weights ≤ 1 := by
  rw [unanimity, maxSpread_eq]
  have hroot := RootedScalar.sqrt_nonneg (variance votes weights)
  linarith

section Weighed

variable (hsome : votes ≠ []) (hweights : ∀ v ∈ votes, 0 < weights.weight v.judge)
include hsome hweights

theorem unanimity_eq_one_iff :
    unanimity votes weights = 1 ↔ ∀ v ∈ votes, ∀ v' ∈ votes, v.score = v'.score := by
  rw [unanimity, maxSpread_eq, sub_eq_self, div_eq_zero_iff, or_iff_left one_half_pos.ne',
    RootedScalar.sqrt_eq_zero_iff (variance_nonneg hsome hweights),
    variance_eq_zero_iff hsome hweights]

variable (hscores : ∀ v ∈ votes, 0 ≤ v.score ∧ v.score ≤ 1)
include hscores

theorem unanimity_nonneg : 0 ≤ unanimity votes weights := by
  have hquarter : (1 / 4 : α) = 1 / 2 * (1 / 2) := by norm_num
  have hvariance := (variance_le hsome hweights hscores).trans_eq hquarter
  have hroot := RootedScalar.sqrt_le_of_le_mul_self (variance_nonneg hsome hweights)
    one_half_pos.le hvariance
  rw [unanimity, maxSpread_eq]
  linarith

theorem ofVotes?_eq_unclamped : ofVotes? votes weights = some (unclamped votes weights) := by
  have hpos := totalWeight_pos hsome hweights
  have hcounts : ¬ (votes.isEmpty ∨ totalWeight votes weights ≤ 0 ∨
      !Scalar.isFinite (totalWeight votes weights)) := by
    simp [hsome, hpos, ExactScalar.isFinite_eq]
  have hone : (1.0 : α) = 1 := by
    rw [ExactScalar.ofScientific_eq]
    norm_num
  have hagreement : (if votes.length = 1 then 1 else
      Scalar.clamp 0 1 (1.0 - Scalar.sqrt (variance votes weights) / maxSpread)) =
      unanimity votes weights := by
    split
    · next hlength =>
      obtain ⟨v, rfl⟩ := List.length_eq_one_iff.mp hlength
      exact ((unanimity_eq_one_iff hsome hweights).mpr (by simp)).symm
    · rw [hone]
      exact clamp_of_not_lt (unanimity_nonneg hsome hweights hscores).not_gt
        unanimity_le_one.not_gt
  rw [ofVotes?]
  dsimp only
  rw [if_neg hcounts, hagreement]
  rfl

theorem unclamped_inRange : (unclamped votes weights).InRange := by
  have hscore : 0 ≤ meanScore votes weights ∧ meanScore votes weights ≤ 1 :=
    weightedMean_between hsome hweights hscores
  have hagreement_nonneg := unanimity_nonneg hsome hweights hscores
  have hagreement_le : unanimity votes weights ≤ 1 := unanimity_le_one
  have hhalf : (0.5 : α) = 1 / 2 := maxSpread_eq
  refine ⟨hscore, ⟨hagreement_nonneg, hagreement_le⟩, ?_⟩
  change 0 ≤ 0.5 * meanScore votes weights + 0.5 * unanimity votes weights ∧
    0.5 * meanScore votes weights + 0.5 * unanimity votes weights ≤ 1
  rw [hhalf]
  constructor <;> linarith

/-- Votes with scores from zero to one and positive weights have an aggregate. Its score lies
between the least and the greatest vote; agreement is the formula for any number of votes, which
needs no clamping and is full only for equal scores; and the aggregate depends neither on the order
of the votes nor on the unit of the weights. -/
theorem exists_bounded_aggregate :
    ∃ aggregate, ofVotes? votes weights = some aggregate ∧
      (∃ least ∈ votes, ∃ greatest ∈ votes,
        (∀ v ∈ votes, least.score ≤ v.score ∧ v.score ≤ greatest.score) ∧
          least.score ≤ aggregate.score ∧ aggregate.score ≤ greatest.score) ∧
      (0 ≤ variance votes weights ∧ variance votes weights ≤ 1 / 4) ∧
      (aggregate.agreement = 1 - Scalar.sqrt (variance votes weights) / maxSpread ∧
        0 ≤ aggregate.agreement ∧ aggregate.agreement ≤ 1) ∧
      (aggregate.agreement = 1 ↔ ∀ v ∈ votes, ∀ v' ∈ votes, v.score = v'.score) ∧
      (0 ≤ aggregate.confidence ∧ aggregate.confidence ≤ 1) ∧
      (∀ votes', votes'.Perm votes → ofVotes? votes' weights = some aggregate) ∧
      ∀ c, 0 < c → ofVotes? votes (weights.scaled c) = some aggregate := by
  have hvalue : ofVotes? votes weights = some (unclamped votes weights) :=
    ofVotes?_eq_unclamped hsome hweights hscores
  have hrange := unclamped_inRange hsome hweights hscores
  refine ⟨unclamped votes weights, hvalue, ?extremes,
    ⟨variance_nonneg hsome hweights, variance_le hsome hweights hscores⟩,
    ⟨rfl, hrange.agreement⟩, unanimity_eq_one_iff hsome hweights, hrange.confidence, ?order, ?unit⟩
  case extremes =>
    have hfinite := List.finite_toSet votes
    have hnonempty := List.exists_mem_of_ne_nil votes hsome
    obtain ⟨least, hleast, hlo⟩ := Set.exists_min_image _ JudgeVote.score hfinite hnonempty
    obtain ⟨greatest, hgreatest, hhi⟩ := Set.exists_max_image _ JudgeVote.score hfinite hnonempty
    have hall (v : JudgeVote α) (hv : v ∈ votes) :
        least.score ≤ v.score ∧ v.score ≤ greatest.score := ⟨hlo v hv, hhi v hv⟩
    exact ⟨least, hleast, greatest, hgreatest, hall, weightedMean_between hsome hweights hall⟩
  case order =>
    intro votes' hperm
    rw [← unclamped_congr (weightedMean_perm hperm)]
    refine ofVotes?_eq_unclamped ?_ ?_ ?_
    · exact fun hnil ↦ hsome (hnil ▸ hperm).nil_eq.symm
    · exact fun v hv ↦ hweights v (hperm.mem_iff.mp hv)
    · exact fun v hv ↦ hscores v (hperm.mem_iff.mp hv)
  case unit =>
    intro c hc
    rw [← unclamped_congr (weightedMean_scaled hc.ne')]
    refine ofVotes?_eq_unclamped hsome (fun v hv ↦ ?_) hscores
    rw [JudgeWeights.weight_scaled]
    exact mul_pos hc (hweights v hv)

end Weighed

theorem split_vote_bounded :
    let votes : List (JudgeVote ℝ) := [⟨.rule, 1, "match"⟩, ⟨.heuristic, 0, "differs"⟩]
    let weights : JudgeWeights ℝ := ⟨1, 3, 2⟩
    votes ≠ [] ∧ (∀ v ∈ votes, 0 < weights.weight v.judge) ∧
      (∀ v ∈ votes, 0 ≤ v.score ∧ v.score ≤ 1) ∧
      ∃ aggregate, ofVotes? votes weights = some aggregate ∧
        0 ≤ aggregate.score ∧ aggregate.score ≤ 1 ∧ aggregate.agreement ≠ 1 := by
  intro votes weights
  have hsome : votes ≠ [] := List.cons_ne_nil _ _
  have hweights : ∀ v ∈ votes, 0 < weights.weight v.judge := by
    simp [votes, weights, JudgeWeights.weight]
  have hscores : ∀ v ∈ votes, 0 ≤ v.score ∧ v.score ≤ 1 := by
    simp [votes]
  obtain ⟨aggregate, hvalue, ⟨least, hleast, greatest, hgreatest, -, hlo, hhi⟩, -, -, hequal, -⟩ :=
    exists_bounded_aggregate hsome hweights hscores
  refine ⟨hsome, hweights, hscores, aggregate, hvalue, (hscores least hleast).1.trans hlo,
    hhi.trans (hscores greatest hgreatest).2, ?_⟩
  rw [Ne, hequal]
  simp [votes]

end Rooted

end Aggregate

end WorkflowSearch
