import Mathlib.Data.List.Infix
import Mathlib.Tactic.Common
import WorkflowSearch.Text.Blank
import WorkflowSearch.Text.Search

namespace WorkflowSearch.Text

/-- The text is the word, a space, and anything. -/
def Begins (word text : String) : Prop :=
  word.toList ++ [' '] <+: text.toList

instance (word text : String) : Decidable (Begins word text) :=
  inferInstanceAs (Decidable (_ <+: _))

theorem Begins.append {word text : String} (h : Begins word text) (more : String) :
    Begins word (text ++ more) := by
  unfold Begins
  rw [String.toList_append]
  exact h.trans (List.prefix_append _ _)

theorem pieces_ne_nil (separates : Char → Bool) (cs : List Char) : pieces separates cs ≠ [] := by
  cases cs with
  | nil => simp [pieces]
  | cons c cs =>
    rw [pieces]
    split
    · simp
    · split <;> simp

theorem pieces_append_cons {separates : Char → Bool} {c : Char} (hc : separates c = true)
    (before after : List Char) :
    pieces separates (before ++ c :: after) =
      pieces separates before ++ pieces separates after := by
  induction before with
  | nil => simp [pieces, hc]
  | cons x before ih =>
    rw [List.cons_append, pieces, pieces, ih]
    split
    · rfl
    · cases hpieces : pieces separates before with
      | nil => exact absurd hpieces (pieces_ne_nil separates before)
      | cons => rfl

theorem pieces_of_forall {separates : Char → Bool} {word : List Char}
    (hword : ∀ c ∈ word, separates c = false) : pieces separates word = [word] := by
  induction word with
  | nil => rfl
  | cons x word ih =>
    obtain ⟨hx, hword⟩ := List.forall_mem_cons.mp hword
    rw [pieces, if_neg (by simp [hx]), ih hword]

theorem pieces_append {separates : Char → Bool} {word : List Char}
    (hword : ∀ c ∈ word, separates c = false) {c : Char} (hc : separates c = true)
    (rest : List Char) :
    pieces separates (word ++ c :: rest) = word :: pieces separates rest := by
  rw [pieces_append_cons hc, pieces_of_forall hword, List.singleton_append]

theorem not_of_mem_pieces {separates : Char → Bool} {cs piece : List Char}
    (h : piece ∈ pieces separates cs) : ∀ c ∈ piece, separates c = false := by
  induction cs generalizing piece with
  | nil =>
    obtain rfl := List.mem_singleton.mp h
    simp
  | cons x cs ih =>
    rw [pieces] at h
    split at h
    · obtain rfl | h := List.mem_cons.mp h
      · simp
      · exact ih h
    · next hx =>
      obtain ⟨first, rest, hpieces⟩ := List.exists_cons_of_ne_nil (pieces_ne_nil separates cs)
      rw [hpieces] at h ih
      obtain rfl | h := List.mem_cons.mp h
      · exact List.forall_mem_cons.mpr ⟨by simpa using hx, ih List.mem_cons_self⟩
      · exact ih (List.mem_cons_of_mem first h)

theorem Begins.words {word text : String} (h : Begins word text) (hword : word ≠ "")
    (hblank : ∀ c ∈ word.toList, isBlank c = false) : ∃ rest, words text = word :: rest := by
  obtain ⟨rest, hrest⟩ := h
  have hspace : (!!isBlank ' ') = true := by decide +kernel
  rw [List.append_assoc, List.singleton_append] at hrest
  refine ⟨(runs (!isBlank ·) rest).map .ofList, ?_⟩
  unfold Text.words runs
  rw [← hrest, pieces_append (by simpa using hblank) hspace, List.filter_cons_of_pos (by simpa),
    List.map_cons, String.ofList_toList]

theorem Begins.unique {word other text : String} (h : Begins word text) (h' : Begins other text)
    (hword : ' ' ∉ word.toList) (hother : ' ' ∉ other.toList) : word = other := by
  have hfirst {w : String} (hw : Begins w text) (hspace : ' ' ∉ w.toList) :
      text.toList.takeWhile (· ≠ ' ') = w.toList := by
    obtain ⟨rest, hrest⟩ := hw
    rw [← hrest, List.append_assoc, List.takeWhile_append_of_pos]
    · simp
    · intro c hc
      exact decide_eq_true fun hspace' ↦ hspace (hspace' ▸ hc)
  exact String.toList_inj.mp ((hfirst h hword).symm.trans (hfirst h' hother))

theorem replaceChars_append {first : Char} {old new before : List Char} (h : first ∉ before)
    (cs : List Char) :
    replaceChars (first :: old) new (before ++ cs) =
      before ++ replaceChars (first :: old) new cs := by
  induction before with
  | nil => rfl
  | cons c before ih =>
    obtain ⟨hc, hbefore⟩ : first ≠ c ∧ first ∉ before := by simpa using h
    have hstart : ¬ (first :: old).isPrefixOf (c :: (before ++ cs)) = true := by simp [hc]
    rw [List.cons_append, replaceChars, if_neg hstart, ih hbefore]
    rfl

theorem Begins.replace {word text old new : String} {first : Char} {rest : List Char}
    (h : Begins word text) (hold : old.toList = first :: rest) (hword : first ∉ word.toList)
    (hspace : first ≠ ' ') : Begins word (replace text old new) := by
  obtain ⟨tail, htail⟩ := h
  have hfirst : first ∉ word.toList ++ [' '] := by simp [hword, hspace]
  refine ⟨replaceChars old.toList new.toList tail, ?_⟩
  rw [Text.replace, String.toList_ofList, ← htail, hold, replaceChars_append hfirst]

end WorkflowSearch.Text
