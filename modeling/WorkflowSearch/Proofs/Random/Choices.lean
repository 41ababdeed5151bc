import Mathlib.Tactic.Common
import WorkflowSearch.Random.Source

namespace WorkflowSearch.RandomSource

variable {σ β : Type} [RandomSource σ]

theorem mem_of_choose? {items : List β} {source source' : σ} {item : β}
    (h : choose? items source = (some item, source')) : item ∈ items := by
  unfold choose? at h
  split at h
  · obtain ⟨hitem, -⟩ := Prod.mk.inj h
    exact Option.some.inj hitem ▸ List.getElem_mem _
  · cases h

theorem choose?_ne_none {items : List β} (h : items ≠ []) {source source' : σ} :
    choose? items source ≠ (none, source') := by
  rw [choose?, dif_pos (List.length_pos_iff.mpr h)]
  exact fun hnone ↦ Option.some_ne_none _ (Prod.mk.inj hnone).1

theorem shuffleFrom_perm (n : ℕ) (items : Array β) (source : σ) :
    (shuffleFrom n items source).1.Perm items := by
  induction n generalizing items source with
  | zero => exact .rfl
  | succ n ih =>
    refine (ih ..).trans ?_
    rw [Array.swapIfInBounds_def]
    split
    · split
      · exact Array.swap_perm ..
      · exact .rfl
    · exact .rfl

theorem shuffle_perm (items : List β) (source : σ) :
    (shuffle items source).1.Perm items :=
  (shuffleFrom_perm (items.length - 1) items.toArray source).toList

end WorkflowSearch.RandomSource
