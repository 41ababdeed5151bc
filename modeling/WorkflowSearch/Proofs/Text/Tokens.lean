import WorkflowSearch.Proofs.Text.Lowercase
import WorkflowSearch.Proofs.Text.Words
import WorkflowSearch.Text.Tokens

namespace WorkflowSearch.Text

structure IsWord (word : String) : Prop where
  ne_empty : word ≠ ""
  forall_isWordChar : ∀ c ∈ word.toList, isWordChar c = true

section Runs

variable {p : Char → Bool}

theorem runs_append_cons {c : Char} (hc : p c = false) (before after : List Char) :
    runs p (before ++ c :: after) = runs p before ++ runs p after := by
  unfold runs
  rw [pieces_append_cons (by simp [hc]), List.filter_append]

theorem runs_append_of_forall_not {separators : List Char} (h : ∀ c ∈ separators, p c = false)
    (cs : List Char) : runs p (separators ++ cs) = runs p cs := by
  induction separators with
  | nil => rfl
  | cons c separators ih =>
    obtain ⟨hc, hseparators⟩ := List.forall_mem_cons.mp h
    exact (runs_append_cons hc [] (separators ++ cs)).trans (ih hseparators)

theorem runs_of_forall {cs : List Char} (hsome : cs ≠ []) (h : ∀ c ∈ cs, p c = true) :
    runs p cs = [cs] := by
  unfold runs
  rw [pieces_of_forall (by simpa using h), List.filter_cons_of_pos (by simpa using hsome),
    List.filter_nil]

theorem runs_intercalate (hspace : p ' ' = false) {words : List String}
    (h : ∀ word ∈ words, word ≠ "" ∧ ∀ c ∈ word.toList, p c = true) :
    runs p (" ".intercalate words).toList = words.map String.toList := by
  induction words with
  | nil => rfl
  | cons word words ih =>
    obtain ⟨⟨hsome, hword⟩, hwords⟩ := List.forall_mem_cons.mp h
    have hrun : runs p word.toList = [word.toList] :=
      runs_of_forall (mt String.toList_eq_nil_iff.mp hsome) hword
    cases words with
    | nil => exact hrun
    | cons next words =>
      have hsplit : (" ".intercalate (word :: next :: words)).toList =
          word.toList ++ ' ' :: (" ".intercalate (next :: words)).toList := by
        rw [String.intercalate_cons_cons, String.toList_append, String.toList_append,
          List.append_assoc]
        rfl
      rw [hsplit, runs_append_cons hspace, hrun, ih hwords, List.singleton_append, ← List.map_cons]

end Runs

theorem tokens_append {separator : String} (hsome : separator ≠ "")
    (hseparator : separator.toList.any isWordChar = false) (before after : String) :
    tokens (before ++ separator ++ after) = tokens before ++ tokens after := by
  obtain ⟨c, separators, hcons⟩ := List.exists_cons_of_ne_nil (mt String.toList_eq_nil_iff.mp hsome)
  rw [hcons, List.any_cons, Bool.or_eq_false_iff, List.any_eq_false] at hseparator
  unfold tokens
  rw [String.toList_append, String.toList_append, hcons, List.append_assoc, List.cons_append,
    runs_append_cons hseparator.1, runs_append_of_forall_not (by simpa using hseparator.2),
    List.map_append]

theorem tokens_append_space (before after : String) :
    tokens (before ++ " " ++ after) = tokens before ++ tokens after :=
  tokens_append (by decide) (by decide) before after

theorem tokens_intercalate {words : List String} (h : ∀ word ∈ words, IsWord word) :
    tokens (" ".intercalate words) = words.map lowercase := by
  have hwords : ∀ word ∈ words, word ≠ "" ∧ ∀ c ∈ word.toList, isWordChar c = true :=
    fun word hword ↦ ⟨(h word hword).ne_empty, (h word hword).forall_isWordChar⟩
  have hview : (fun run ↦ lowercase (.ofList run)) ∘ String.toList = lowercase := by
    funext word
    exact congrArg lowercase String.ofList_toList
  unfold tokens
  rw [runs_intercalate (by decide) hwords, List.map_map, hview]

theorem IsWord.tokens_eq {word : String} (h : IsWord word) : tokens word = [lowercase word] :=
  tokens_intercalate (List.forall_mem_singleton.mpr h)

theorem ne_empty_of_mem_tokens {text token : String} (h : token ∈ tokens text) : token ≠ "" := by
  obtain ⟨run, hrun, rfl⟩ := List.mem_map.mp h
  have hsome : run ≠ [] := by simpa using (List.mem_filter.mp hrun).2
  exact lowercase_ne_empty (by simpa using hsome)

theorem normalize_eq_empty_iff (text : String) : normalize text = "" ↔ tokens text = [] := by
  constructor
  · intro h
    unfold normalize at h
    cases htokens : tokens text with
    | nil => rfl
    | cons token rest =>
      have hsome : token ≠ "" := ne_empty_of_mem_tokens (htokens ▸ List.mem_cons_self)
      rw [htokens] at h
      cases rest with
      | nil => exact absurd h hsome
      | cons => simp [String.intercalate_cons_cons] at h
  · intro h
    rw [normalize, h]
    rfl

theorem isEmpty_normalize (text : String) : (normalize text).isEmpty = (tokens text).isEmpty := by
  rw [Bool.eq_iff_iff, String.isEmpty_iff, List.isEmpty_iff, normalize_eq_empty_iff]

end WorkflowSearch.Text
