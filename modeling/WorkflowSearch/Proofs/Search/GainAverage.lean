import Mathlib.Algebra.BigOperators.Fin
import Mathlib.Algebra.BigOperators.Ring.Finset
import Mathlib.Algebra.Order.Field.Basic
import Mathlib.Data.List.GetD
import Mathlib.Data.List.Induction
import Mathlib.Tactic.Linarith
import Mathlib.Tactic.Ring
import WorkflowSearch.Proofs.Scalar.Exact
import WorkflowSearch.Proofs.Search.ToolGains

namespace WorkflowSearch

open scoped BigOperators

variable {α : Type}

def improvementsOf (tool : String) (credits : List (String × α)) : List α :=
  (credits.filter (·.1 = tool)).map (·.2)

theorem improvementsOf_concat (tool : String) (credits : List (String × α))
    (credit : String × α) :
    improvementsOf tool (credits ++ [credit]) =
      if credit.1 = tool then improvementsOf tool credits ++ [credit.2]
      else improvementsOf tool credits := by
  by_cases h : credit.1 = tool <;> simp [improvementsOf, List.filter_append, h]

theorem length_improvementsOf (tool : String) (credits : List (String × α)) :
    (improvementsOf tool credits).length = credits.countP (·.1 = tool) := by
  rw [improvementsOf, List.length_map, List.countP_eq_length_filter]

section Extremes

variable [LinearOrder α] [Zero α]

theorem foldr_min_le (xs : List α) : xs.foldr min 0 ≤ 0 ∧ ∀ x ∈ xs, xs.foldr min 0 ≤ x := by
  induction xs with
  | nil => simp
  | cons x xs ih =>
    rw [List.foldr_cons, List.forall_mem_cons]
    exact ⟨min_le_of_right_le ih.1, min_le_left .., fun y hy ↦ min_le_of_right_le (ih.2 y hy)⟩

theorem le_foldr_max (xs : List α) : 0 ≤ xs.foldr max 0 ∧ ∀ x ∈ xs, x ≤ xs.foldr max 0 := by
  induction xs with
  | nil => simp
  | cons x xs ih =>
    rw [List.foldr_cons, List.forall_mem_cons]
    exact ⟨le_max_of_le_right ih.1, le_max_left .., fun y hy ↦ le_max_of_le_right (ih.2 y hy)⟩

end Extremes

namespace ToolGains

variable [ExactScalar α]

theorem gain_observe (gains : ToolGains α) (tool other : String) (improvement decay : α) :
    (gains.observe tool improvement decay).gain other =
      if other = tool then decay * gains.gain tool + (1 - decay) * improvement
      else gains.gain other := by
  have hone : (1.0 : α) = 1 := by
    rw [ExactScalar.ofScientific_eq]
    norm_num
  simp only [gain_eq_maps, maps_observe, GainMaps.averages_update, hone]
  split <;> rfl

/-- The sum of some improvements, where each counts by a power of the decay: the last one in full,
and the others by a factor more than the one after them. -/
def decayedSum (decay : α) (improvements : List α) : α :=
  ∑ i : Fin improvements.length, decay ^ (improvements.length - (i + 1)) * improvements.get i

theorem decayedSum_concat (decay : α) (improvements : List α) (last : α) :
    decayedSum decay (improvements ++ [last]) =
      decay * decayedSum decay improvements + last := by
  have hrange (l : List α) : decayedSum decay l =
      ∑ i ∈ Finset.range l.length, decay ^ (l.length - (i + 1)) * l.getD i 0 := by
    simp [decayedSum, Finset.sum_range]
  have hearlier (i : ℕ) (hi : i ∈ Finset.range improvements.length) :
      decay ^ (improvements.length + 1 - (i + 1)) * (improvements ++ [last]).getD i 0 =
        decay * (decay ^ (improvements.length - (i + 1)) * improvements.getD i 0) := by
    have hlt := Finset.mem_range.mp hi
    have hage : improvements.length + 1 - (i + 1) = improvements.length - (i + 1) + 1 := by omega
    rw [List.getD_append _ _ _ _ hlt, hage, pow_succ']
    ring
  rw [hrange, hrange, List.length_append, List.length_singleton, Finset.sum_range_succ,
    Finset.sum_congr rfl hearlier, ← Finset.mul_sum]
  simp

theorem gain_replay (decay : α) (credits : List (String × α)) (tool : String) :
    (replay decay credits).gain tool =
      (1 - decay) * decayedSum decay (improvementsOf tool credits) := by
  induction credits using List.reverseRecOn with
  | nil => exact (mul_zero _).symm
  | append_singleton credits credit ih =>
    rw [replay_concat, gain_observe, improvementsOf_concat]
    by_cases h : tool = credit.1
    · rw [if_pos h, if_pos h.symm, decayedSum_concat, ← h, ih]
      ring
    · rw [if_neg h, if_neg (Ne.symm h), ih]

theorem gain_replay_between {decay lo hi : α} {credits : List (String × α)} {tool : String}
    (hdecay : 0 ≤ decay ∧ decay ≤ 1) (hlo : lo ≤ 0) (hhi : 0 ≤ hi)
    (h : ∀ x ∈ improvementsOf tool credits, lo ≤ x ∧ x ≤ hi) :
    lo ≤ (replay decay credits).gain tool ∧ (replay decay credits).gain tool ≤ hi := by
  induction credits using List.reverseRecOn with
  | nil => exact ⟨hlo, hhi⟩
  | append_singleton credits credit ih =>
    rw [replay_concat, gain_observe]
    rw [improvementsOf_concat] at h
    split
    · next hsame =>
      subst hsame
      rw [if_pos rfl, List.forall_mem_append, List.forall_mem_singleton] at h
      obtain ⟨hlow, hhigh⟩ := ih h.1
      have hweight : 0 ≤ 1 - decay := sub_nonneg.mpr hdecay.2
      constructor
      · calc lo = decay * lo + (1 - decay) * lo := by ring
          _ ≤ decay * (replay decay credits).gain credit.1 + (1 - decay) * credit.2 :=
            add_le_add (mul_le_mul_of_nonneg_left hlow hdecay.1)
              (mul_le_mul_of_nonneg_left h.2.1 hweight)
      · calc decay * (replay decay credits).gain credit.1 + (1 - decay) * credit.2
            ≤ decay * hi + (1 - decay) * hi :=
            add_le_add (mul_le_mul_of_nonneg_left hhigh hdecay.1)
              (mul_le_mul_of_nonneg_left h.2.2 hweight)
          _ = hi := by ring
    · next hother =>
      rw [if_neg (Ne.symm hother)] at h
      exact ih h

/-- After some credits at one decay, the gain of a tool is its decayed sum of improvements, and its
observations are their number; credits of other tools in between do not matter. While the decay is
below one, the gain lies between the smallest improvement or zero and the greatest one or zero. -/
theorem gain_replay_eq_sum (decay : α) (credits : List (String × α)) (tool : String) :
    (replay decay credits).gain tool =
        (1 - decay) * decayedSum decay (improvementsOf tool credits) ∧
      (replay decay credits).observations tool = (improvementsOf tool credits).length ∧
      (0 ≤ decay → decay < 1 →
        (improvementsOf tool credits).foldr min 0 ≤ (replay decay credits).gain tool ∧
          (replay decay credits).gain tool ≤ (improvementsOf tool credits).foldr max 0) := by
  refine ⟨gain_replay decay credits tool, ?_, fun hnonneg hlt ↦ ?_⟩
  · rw [observations_replay, length_improvementsOf]
  · have hmin := foldr_min_le (improvementsOf tool credits)
    have hmax := le_foldr_max (improvementsOf tool credits)
    exact gain_replay_between ⟨hnonneg, hlt.le⟩ hmin.1 hmax.1 fun x hx ↦ ⟨hmin.2 x hx, hmax.2 x hx⟩

/-- The gain falls below zero after one decline, though the improvements add up to none. -/
theorem gain_replay_of_decline :
    let credits : List (String × ℚ) :=
      [("CypherExecutor", 1 / 10), ("PageRankExecutor", 1 / 5), ("CypherExecutor", -1 / 10)]
    let gains := replay (7 / 10) credits
    improvementsOf "CypherExecutor" credits = [1 / 10, -1 / 10] ∧
      gains.gain "CypherExecutor" = -9 / 1000 ∧
      gains.observations "CypherExecutor" = 2 ∧
      -1 / 10 ≤ gains.gain "CypherExecutor" ∧ gains.gain "CypherExecutor" ≤ 1 / 10 := by
  intro credits gains
  have hown : improvementsOf "CypherExecutor" credits = [1 / 10, -1 / 10] := by
    simp [credits, improvementsOf]
  obtain ⟨hgain, hcount, hbetween⟩ := gain_replay_eq_sum (7 / 10) credits "CypherExecutor"
  replace hbetween := hbetween (by norm_num) (by norm_num)
  have hsum : decayedSum (7 / 10 : ℚ) [1 / 10, -1 / 10] = -3 / 100 :=
    (Fin.sum_univ_two _).trans (by norm_num)
  rw [hown, hsum] at hgain
  rw [hown] at hcount hbetween
  refine ⟨hown, hgain.trans ?_, hcount, ?_, ?_⟩
  · norm_num
  · exact le_of_eq_of_le (by norm_num) hbetween.1
  · exact hbetween.2.trans_eq (by norm_num)

end ToolGains
end WorkflowSearch
