import Mathlib.Data.List.Forall2
import Mathlib.Tactic.Common

namespace WorkflowSearch

variable {ε β γ : Type}

@[simp]
theorem ok_bind (b : β) (f : β → Except ε γ) : (Except.ok b >>= f) = f b :=
  rfl

@[simp]
theorem error_bind (e : ε) (f : β → Except ε γ) : (Except.error e >>= f) = .error e :=
  rfl

theorem bind_eq_ok_iff {x : Except ε β} {f : β → Except ε γ} {c : γ} :
    x >>= f = .ok c ↔ ∃ b, x = .ok b ∧ f b = .ok c := by
  cases x <;> simp

theorem bind_eq_error_iff {x : Except ε β} {f : β → Except ε γ} {e : ε} :
    x >>= f = .error e ↔ x = .error e ∨ ∃ b, x = .ok b ∧ f b = .error e := by
  cases x <;> simp

theorem seq_eq_ok_iff {x : Except ε Unit} {y : Except ε γ} {c : γ} :
    (x >>= fun _ ↦ y) = .ok c ↔ x = .ok () ∧ y = .ok c := by
  cases x <;> simp

@[simp]
theorem mapError_eq_ok_iff {ε' : Type} {f : ε → ε'} {x : Except ε β} {b : β} :
    x.mapError f = .ok b ↔ x = .ok b := by
  cases x <;> simp [Except.mapError]

theorem forM_eq_ok_iff {f : β → Except ε Unit} {l : List β} :
    forM l f = .ok () ↔ ∀ b ∈ l, f b = .ok () := by
  induction l with
  | nil => exact iff_of_true rfl (List.forall_mem_nil _)
  | cons b l ih => rw [List.forM_cons, seq_eq_ok_iff, ih, List.forall_mem_cons]

theorem exists_eq_ok_of_isOk {x : Except ε β} (h : x.isOk = true) : ∃ b, x = .ok b := by
  cases x with
  | error e => cases h
  | ok b => exact ⟨b, rfl⟩

theorem eq_ok_of_isOk {x : Except ε Unit} (h : x.isOk = true) : x = .ok () :=
  (exists_eq_ok_of_isOk h).elim fun _ hok ↦ hok

theorem toOption_eq_some_iff {x : Except ε β} {b : β} : x.toOption = some b ↔ x = .ok b := by
  cases x <;> simp [Except.toOption]

theorem exists_eq_ok_of_map {x : Except ε β} {view : β → γ} {c : γ}
    (h : x.toOption.map view = some c) : ∃ b, x = .ok b ∧ view b = c := by
  cases x with
  | error e => cases h
  | ok b => exact ⟨b, rfl, Option.some.inj h⟩

theorem forall₂_of_mapM {f : β → Except ε γ} {l : List β} {results : List γ}
    (h : l.mapM f = .ok results) : List.Forall₂ (fun b c ↦ f b = .ok c) l results := by
  induction l generalizing results with
  | nil =>
    obtain rfl := Except.ok.inj h
    exact .nil
  | cons b l ih =>
    rw [List.mapM_cons] at h
    obtain ⟨first, hfirst, h⟩ := bind_eq_ok_iff.mp h
    obtain ⟨rest, hrest, h⟩ := bind_eq_ok_iff.mp h
    obtain rfl := Except.ok.inj h
    exact .cons hfirst (ih hrest)

theorem exists_of_mem_mapM {f : β → Except ε γ} {l : List β} {results : List γ}
    (h : l.mapM f = .ok results) {c : γ} (hc : c ∈ results) : ∃ b ∈ l, f b = .ok c := by
  have hall := forall₂_of_mapM h
  clear h
  induction hall with
  | nil => cases hc
  | @cons b first l rest hfirst _ ih =>
    obtain rfl | hc := List.mem_cons.mp hc
    · exact ⟨b, List.mem_cons_self, hfirst⟩
    · obtain ⟨b', hb', hok⟩ := ih hc
      exact ⟨b', List.mem_cons_of_mem _ hb', hok⟩

theorem exists_of_mapM_error {f : β → Except ε γ} {l : List β} {e : ε}
    (h : l.mapM f = .error e) : ∃ b ∈ l, f b = .error e := by
  induction l with
  | nil => cases h
  | cons b l ih =>
    rw [List.mapM_cons, bind_eq_error_iff] at h
    obtain hfirst | ⟨first, -, h⟩ := h
    · exact ⟨b, List.mem_cons_self, hfirst⟩
    · obtain hrest | ⟨rest, -, h⟩ := bind_eq_error_iff.mp h
      · obtain ⟨b', hb', herror⟩ := ih hrest
        exact ⟨b', List.mem_cons_of_mem _ hb', herror⟩
      · cases h

end WorkflowSearch
