import Mathlib.Data.List.Induction
import Mathlib.Data.String.Basic
import Mathlib.Logic.Function.Basic
import WorkflowSearch.Search.ToolGains

namespace WorkflowSearch

variable {α : Type}

namespace ToolGains

theorem find?_cons (other : ToolGain α) (rest : ToolGains α) (tool : String) :
    find? (other :: rest) tool = if other.tool = tool then some other else find? rest tool := by
  unfold find?
  rw [List.find?_cons]
  cases hsame : other.tool == tool with
  | true => rw [if_pos (beq_iff_eq.mp hsame)]
  | false => rw [if_neg (beq_eq_false_iff_ne.mp hsame)]

theorem find?_put (entry : ToolGain α) (gains : ToolGains α) (tool : String) :
    (gains.put entry).find? tool = if entry.tool = tool then some entry else gains.find? tool := by
  induction gains with
  | nil => exact find?_cons entry [] tool
  | cons other rest ih =>
    unfold put
    split
    · exact find?_cons entry (other :: rest) tool
    · next heq =>
      rw [find?_cons, find?_cons, ← compare_eq_iff_eq.mp heq]
      split <;> rfl
    · next hgt =>
      have hne : other.tool ≠ entry.tool := (compare_gt_iff_gt.mp hgt).ne
      rw [find?_cons, find?_cons, ih]
      by_cases h : entry.tool = tool
      · rw [if_pos h, if_pos h, if_neg (h ▸ hne)]
      · rw [if_neg h, if_neg h]

def Sorted (gains : ToolGains α) : Prop :=
  (gains.map (·.tool)).Pairwise (· < ·)

theorem mem_put {entry other : ToolGain α} {gains : ToolGains α} (h : other ∈ gains.put entry) :
    other = entry ∨ other ∈ gains := by
  induction gains with
  | nil => exact .inl (List.mem_singleton.mp h)
  | cons first rest ih =>
    unfold put at h
    split at h
    · exact List.mem_cons.mp h
    · exact (List.mem_cons.mp h).imp_right (List.mem_cons_of_mem first)
    · obtain rfl | h := List.mem_cons.mp h
      · exact .inr List.mem_cons_self
      · exact (ih h).imp_right (List.mem_cons_of_mem first)

theorem Sorted.put {gains : ToolGains α} (h : gains.Sorted) (entry : ToolGain α) :
    (gains.put entry).Sorted := by
  induction gains with
  | nil => exact List.pairwise_singleton _ _
  | cons other rest ih =>
    unfold Sorted at h ih ⊢
    rw [List.map_cons, List.pairwise_cons, List.forall_mem_map] at h
    obtain ⟨hother, hrest⟩ := h
    unfold ToolGains.put
    split
    · next hlt =>
      have hentry := compare_lt_iff_lt.mp hlt
      rw [List.map_cons, List.map_cons, List.pairwise_cons, List.pairwise_cons, List.forall_mem_cons,
        List.forall_mem_map, List.forall_mem_map]
      exact ⟨⟨hentry, fun later hlater ↦ hentry.trans (hother later hlater)⟩, hother, hrest⟩
    · next heq =>
      rw [List.map_cons, List.pairwise_cons, List.forall_mem_map, compare_eq_iff_eq.mp heq]
      exact ⟨hother, hrest⟩
    · next hgt =>
      rw [List.map_cons, List.pairwise_cons, List.forall_mem_map]
      refine ⟨fun later hlater ↦ ?_, ih hrest⟩
      obtain rfl | hlater := mem_put hlater
      · exact compare_gt_iff_gt.mp hgt
      · exact hother later hlater

end ToolGains

/-- The averages and the numbers of improvements, each in a map of its own. -/
structure GainMaps (α : Type) where
  averages : String → Option α
  counts : String → Option ℕ

namespace GainMaps

def empty : GainMaps α :=
  ⟨fun _ ↦ none, fun _ ↦ none⟩

variable [Scalar α]

def update (maps : GainMaps α) (tool : String) (improvement decay : α) : GainMaps α where
  averages := Function.update maps.averages tool
    (some (decay * (maps.averages tool).getD 0 + (1.0 - decay) * improvement))
  counts := Function.update maps.counts tool (some ((maps.counts tool).getD 0 + 1))

theorem averages_update (maps : GainMaps α) (tool other : String) (improvement decay : α) :
    (maps.update tool improvement decay).averages other =
      if other = tool then some (decay * (maps.averages tool).getD 0 + (1.0 - decay) * improvement)
      else maps.averages other :=
  Function.update_apply ..

theorem counts_update (maps : GainMaps α) (tool other : String) (improvement decay : α) :
    (maps.update tool improvement decay).counts other =
      if other = tool then some ((maps.counts tool).getD 0 + 1) else maps.counts other :=
  Function.update_apply ..

def replay (decay : α) (credits : List (String × α)) : GainMaps α :=
  credits.foldl (fun maps credit ↦ maps.update credit.1 credit.2 decay) empty

theorem replay_concat (decay : α) (credits : List (String × α)) (credit : String × α) :
    replay decay (credits ++ [credit]) = (replay decay credits).update credit.1 credit.2 decay := by
  simp [replay]

theorem averages_isSome_replay (decay : α) (credits : List (String × α)) (tool : String) :
    ((replay decay credits).averages tool).isSome = true ↔ tool ∈ credits.map (·.1) := by
  induction credits using List.reverseRecOn with
  | nil => simp [replay, empty]
  | append_singleton credits credit ih =>
    rw [replay_concat, averages_update, List.map_append, List.mem_append, ← ih]
    by_cases h : tool = credit.1 <;> simp [h]

theorem counts_isSome_replay (decay : α) (credits : List (String × α)) (tool : String) :
    ((replay decay credits).counts tool).isSome = true ↔ tool ∈ credits.map (·.1) := by
  induction credits using List.reverseRecOn with
  | nil => simp [replay, empty]
  | append_singleton credits credit ih =>
    rw [replay_concat, counts_update, List.map_append, List.mem_append, ← ih]
    by_cases h : tool = credit.1 <;> simp [h]

theorem counts_getD_replay (decay : α) (credits : List (String × α)) (tool : String) :
    ((replay decay credits).counts tool).getD 0 = credits.countP (·.1 = tool) := by
  induction credits using List.reverseRecOn with
  | nil => rfl
  | append_singleton credits credit ih =>
    rw [replay_concat, counts_update, List.countP_append, ← ih]
    by_cases h : tool = credit.1
    · subst h
      simp
    · simp [h, Ne.symm h]

end GainMaps

namespace ToolGains

def maps (gains : ToolGains α) : GainMaps α where
  averages tool := (gains.find? tool).map (·.gain)
  counts tool := (gains.find? tool).map (·.observations)

theorem observations_eq_maps (gains : ToolGains α) (tool : String) :
    gains.observations tool = (gains.maps.counts tool).getD 0 := by
  change _ = ((gains.find? tool).map (·.observations)).getD 0
  unfold observations
  cases gains.find? tool <;> rfl

variable [Scalar α]

theorem gain_eq_maps (gains : ToolGains α) (tool : String) :
    gains.gain tool = (gains.maps.averages tool).getD 0 := by
  change _ = ((gains.find? tool).map (·.gain)).getD 0
  unfold gain
  cases gains.find? tool <;> rfl

theorem maps_observe (gains : ToolGains α) (tool : String) (improvement decay : α) :
    (gains.observe tool improvement decay).maps = gains.maps.update tool improvement decay := by
  have hfound (other : String) : (gains.observe tool improvement decay).find? other =
      if other = tool then some ⟨tool, decay * gains.gain tool + (1.0 - decay) * improvement,
        gains.observations tool + 1⟩ else gains.find? other := by
    rw [observe, find?_put]
    exact if_congr eq_comm rfl rfl
  rw [GainMaps.update, ← gain_eq_maps, ← observations_eq_maps, maps, GainMaps.mk.injEq]
  constructor
  · funext other
    rw [hfound, Function.update_apply, apply_ite (Option.map _)]
    rfl
  · funext other
    rw [hfound, Function.update_apply, apply_ite (Option.map _)]
    rfl

def replay (decay : α) (credits : List (String × α)) : ToolGains α :=
  credits.foldl (fun gains credit ↦ gains.observe credit.1 credit.2 decay) []

theorem replay_concat (decay : α) (credits : List (String × α)) (credit : String × α) :
    replay decay (credits ++ [credit]) =
      (replay decay credits).observe credit.1 credit.2 decay := by
  simp [replay]

theorem maps_replay (decay : α) (credits : List (String × α)) :
    (replay decay credits).maps = GainMaps.replay decay credits := by
  induction credits using List.reverseRecOn with
  | nil => rfl
  | append_singleton credits credit ih =>
    rw [replay_concat, GainMaps.replay_concat, maps_observe, ih]

theorem sorted_replay (decay : α) (credits : List (String × α)) :
    (replay decay credits).Sorted := by
  induction credits using List.reverseRecOn with
  | nil => exact List.Pairwise.nil
  | append_singleton credits credit ih =>
    rw [replay_concat]
    exact ih.put _

theorem observations_replay (decay : α) (credits : List (String × α)) (tool : String) :
    (replay decay credits).observations tool = credits.countP (·.1 = tool) := by
  rw [observations_eq_maps, maps_replay, GainMaps.counts_getD_replay]

end ToolGains

end WorkflowSearch
