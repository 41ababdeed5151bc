import Mathlib.Order.MinMax
import Mathlib.Tactic.Common
import WorkflowSearch.Dataset.Basic

namespace WorkflowSearch

namespace PerSplit

variable {β γ δ : Type}

theorem get_modify_self (p : PerSplit β) (f : β → β) (split : Split) :
    (p.modify f split).get split = f (p.get split) := by
  cases split <;> rfl

theorem get_modify_of_ne (p : PerSplit β) (f : β → β) {split other : Split} (h : other ≠ split) :
    (p.modify f split).get other = p.get other := by
  cases split <;> cases other <;> first | rfl | exact absurd rfl h

def zipWith (f : β → γ → δ) (p : PerSplit β) (q : PerSplit γ) : PerSplit δ :=
  ⟨f p.train q.train, f p.validation q.validation, f p.test q.test⟩

theorem get_zipWith (f : β → γ → δ) (p : PerSplit β) (q : PerSplit γ) (split : Split) :
    (p.zipWith f q).get split = f (p.get split) (q.get split) := by
  cases split <;> rfl

end PerSplit

theorem takeWithin_cons (budgets : PerSplit (Option ℕ)) (taken : PerSplit ℕ) (case : Case)
    (cases : List Case) :
    takeWithin budgets taken (case :: cases) =
      if ∀ budget ∈ budgets.get case.split, taken.get case.split < budget then
        case :: takeWithin budgets (taken.modify (· + 1) case.split) cases
      else takeWithin budgets (taken.modify (· + 1) case.split) cases := by
  rw [takeWithin, PerSplit.get_modify_self]
  cases budgets.get case.split with
  | none => simp
  | some budget =>
    simp only [Option.mem_def, Option.some.injEq, forall_eq', Nat.add_one_le_iff, decide_eq_true_eq]

theorem takeWithin_sublist (budgets : PerSplit (Option ℕ)) (taken : PerSplit ℕ)
    (cases : List Case) : (takeWithin budgets taken cases).Sublist cases := by
  induction cases generalizing taken with
  | nil => exact .refl _
  | cons case cases ih =>
    rw [takeWithin_cons]
    split
    · exact (ih _).cons_cons case
    · exact (ih _).cons case

/-- What a budget leaves of the cases of one split; without a budget that is all of them. -/
def takeBudget {β : Type} (budget : Option ℕ) (taken : ℕ) (cases : List β) : List β :=
  match budget with
  | none => cases
  | some budget => cases.take (budget - taken)

theorem takeBudget_cons {β : Type} (limit : Option ℕ) (taken : ℕ) (case : β) (cases : List β) :
    takeBudget limit taken (case :: cases) =
      if ∀ budget ∈ limit, taken < budget then case :: takeBudget limit (taken + 1) cases
      else takeBudget limit (taken + 1) cases := by
  cases limit with
  | none => simp [takeBudget]
  | some budget =>
    by_cases hleft : taken < budget
    · have hone : budget - taken = budget - (taken + 1) + 1 := by omega
      simp [takeBudget, hleft, hone]
    · have hnone : budget - taken = 0 := by omega
      have hnext : budget - (taken + 1) = 0 := by omega
      simp [takeBudget, hleft, hnone, hnext]

theorem filter_takeWithin (budgets : PerSplit (Option ℕ)) (taken : PerSplit ℕ)
    (cases : List Case) (split : Split) :
    (takeWithin budgets taken cases).filter (·.split == split) =
      takeBudget (budgets.get split) (taken.get split) (cases.filter (·.split == split)) := by
  induction cases generalizing taken with
  | nil => cases h : budgets.get split <;> simp [takeWithin, takeBudget]
  | cons case cases ih =>
    have hrest := ih (taken.modify (· + 1) case.split)
    rw [takeWithin_cons]
    by_cases hsplit : case.split = split
    · subst hsplit
      rw [PerSplit.get_modify_self] at hrest
      have hfirst (rest : List Case) : (case :: rest).filter (·.split == case.split) =
          case :: rest.filter (·.split == case.split) :=
        List.filter_cons_of_pos (beq_self_eq_true _)
      rw [hfirst, takeBudget_cons, ← hrest]
      split
      · exact hfirst _
      · rfl
    · rw [PerSplit.get_modify_of_ne _ _ (Ne.symm hsplit)] at hrest
      have hfirst (rest : List Case) : (case :: rest).filter (·.split == split) =
          rest.filter (·.split == split) :=
        List.filter_cons_of_neg (by simpa using hsplit)
      rw [hfirst, ← hrest]
      split
      · exact hfirst _
      · rfl

theorem forall_mem_merge_min_iff {first second : Option ℕ} {n : ℕ} :
    (∀ budget ∈ first.merge min second, n < budget) ↔
      (∀ budget ∈ first, n < budget) ∧ ∀ budget ∈ second, n < budget := by
  cases first <;> cases second <;> simp [Option.merge]

theorem takeWithin_takeWithin {budgets : PerSplit (Option ℕ)} {taken met : PerSplit ℕ}
    (h : ∀ split, (∀ budget ∈ budgets.get split, taken.get split ≤ budget) →
      met.get split = taken.get split) (later : PerSplit (Option ℕ)) (cases : List Case) :
    takeWithin later met (takeWithin budgets taken cases) =
      takeWithin (budgets.zipWith (Option.merge min) later) taken cases := by
  induction cases generalizing taken met with
  | nil => rfl
  | cons case cases ih =>
    rw [takeWithin_cons, takeWithin_cons (budgets.zipWith _ later), PerSplit.get_zipWith]
    simp only [forall_mem_merge_min_iff]
    by_cases hkept : ∀ budget ∈ budgets.get case.split, taken.get case.split < budget
    · have hmet := h case.split fun budget hbudget ↦ Nat.le_of_lt (hkept budget hbudget)
      have hrest := @ih (taken.modify (· + 1) case.split) (met.modify (· + 1) case.split) (by
        intro split hsplit
        by_cases hsame : split = case.split
        · rw [hsame, PerSplit.get_modify_self, PerSplit.get_modify_self, hmet]
        · rw [PerSplit.get_modify_of_ne _ _ hsame] at hsplit ⊢
          rw [PerSplit.get_modify_of_ne _ _ hsame, h split hsplit])
      rw [if_pos hkept, takeWithin_cons, hmet, hrest]
      by_cases hlater : ∀ budget ∈ later.get case.split, taken.get case.split < budget
      · rw [if_pos hlater, if_pos ⟨hkept, hlater⟩]
      · rw [if_neg hlater, if_neg fun hboth ↦ hlater hboth.2]
    · rw [if_neg hkept, if_neg fun hboth ↦ hkept hboth.1]
      refine ih fun split hsplit ↦ ?_
      by_cases hsame : split = case.split
      · rw [hsame, PerSplit.get_modify_self] at hsplit
        exact absurd hsplit hkept
      · rw [PerSplit.get_modify_of_ne _ _ hsame] at hsplit ⊢
        exact h split hsplit

namespace Dataset

variable {α : Type}

theorem ofSplit_sliced (dataset : Dataset α) (budgets : PerSplit (Option ℕ)) (split : Split) :
    (dataset.sliced budgets).ofSplit split =
      takeBudget (budgets.get split) 0 (dataset.ofSplit split) := by
  have h := filter_takeWithin budgets ⟨0, 0, 0⟩ dataset.cases split
  have hzero : PerSplit.get (⟨0, 0, 0⟩ : PerSplit ℕ) split = 0 := by cases split <;> rfl
  rwa [hzero] at h

theorem split_of_mem_ofSplit {dataset : Dataset α} {split : Split} {case : Case}
    (h : case ∈ dataset.ofSplit split) : case.split = split := by
  simpa using (List.mem_filter.mp h).2

/-- A slice keeps cases in their order and changes nothing in the report. Of a split it has the
first cases, as many as its budget, or all of them without a budget. To slice once more is to slice
by the smaller of the two budgets that a split has, or by the only one. -/
theorem sliced_takes_first (dataset : Dataset α) (budgets : PerSplit (Option ℕ)) :
    let slice := dataset.sliced budgets
    slice.cases.Sublist dataset.cases ∧
      (∀ split, slice.ofSplit split = (budgets.get split).elim (dataset.ofSplit split)
        fun budget ↦ (dataset.ofSplit split).take budget) ∧
      slice.report = dataset.report ∧
      ∀ later, slice.sliced later = dataset.sliced (budgets.zipWith (Option.merge min) later) := by
  intro slice
  refine ⟨takeWithin_sublist .., fun split ↦ ?_, rfl, fun later ↦ ?_⟩
  · rw [ofSplit_sliced]
    cases budgets.get split <;> rfl
  · exact congrArg (Dataset.mk · dataset.report) (takeWithin_takeWithin (fun _ _ ↦ rfl) later _)

end Dataset

end WorkflowSearch
