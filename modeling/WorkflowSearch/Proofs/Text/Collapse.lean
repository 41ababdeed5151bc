import WorkflowSearch.Proofs.Text.Tokens

namespace WorkflowSearch.Text

structure IsUnbroken (word : String) : Prop where
  ne_empty : word ≠ ""
  forall_not_isBlank : ∀ c ∈ word.toList, isBlank c = false

theorem isUnbroken_of_mem_words {text word : String} (h : word ∈ words text) : IsUnbroken word := by
  obtain ⟨run, hrun, rfl⟩ := List.mem_map.mp h
  obtain ⟨hpiece, hsome⟩ := List.mem_filter.mp hrun
  refine ⟨by simpa using hsome, ?_⟩
  rw [String.toList_ofList]
  simpa using not_of_mem_pieces hpiece

theorem words_append_of_isBlank {after : String} {c : Char} {rest : List Char}
    (hafter : after.toList = c :: rest) (hc : isBlank c = true) (before : String) :
    words (before ++ after) = words before ++ words after := by
  have hbreak : (!isBlank c) = false := by simp [hc]
  have hfirst : runs (!isBlank ·) (c :: rest) = runs (!isBlank ·) rest :=
    runs_append_cons hbreak [] rest
  unfold words
  rw [String.toList_append, hafter, runs_append_cons hbreak, hfirst, List.map_append]

theorem isBlank_space : isBlank ' ' = true := by
  decide +kernel

theorem words_intercalate {parts : List String} (h : ∀ word ∈ parts, IsUnbroken word) :
    words (" ".intercalate parts) = parts := by
  have hparts : ∀ word ∈ parts, word ≠ "" ∧ ∀ c ∈ word.toList, (!isBlank c) = true :=
    fun word hword ↦ ⟨(h word hword).ne_empty, by simpa using (h word hword).forall_not_isBlank⟩
  unfold words
  rw [runs_intercalate (by simp [isBlank_space]) hparts, List.map_map]
  exact List.map_id'' (fun _ ↦ String.ofList_toList) parts

theorem words_collapse (text : String) : words (collapse text) = words text :=
  words_intercalate fun _ ↦ isUnbroken_of_mem_words

theorem collapse_eq_iff {text text' : String} :
    collapse text = collapse text' ↔ words text = words text' := by
  constructor
  · intro h
    rw [← words_collapse, h, words_collapse]
  · intro h
    rw [collapse, collapse, h]

theorem Begins.words_append {start text : String} (h : Begins start text) :
    ∃ rest, Text.words text = Text.words start ++ rest := by
  obtain ⟨rest, hrest⟩ := h
  have htext : text = start ++ String.ofList (' ' :: rest) := by
    rw [← String.toList_inj, String.toList_append, String.toList_ofList, ← hrest]
    simp
  exact ⟨_, htext ▸ words_append_of_isBlank String.toList_ofList isBlank_space start⟩

end WorkflowSearch.Text
