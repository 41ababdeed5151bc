import WorkflowSearch.Proofs.Text.Tokens

namespace WorkflowSearch.Text

section Replacement

variable {old cs : List Char}

theorem replaceChars_of_not_infix (h : ¬ old <:+: cs) (new : List Char) :
    replaceChars old new cs = cs := by
  induction cs with
  | nil => rw [replaceChars]
  | cons c cs ih =>
    rw [List.infix_cons_iff, not_or] at h
    rw [replaceChars, if_neg (mt List.isPrefixOf_iff_prefix.mp h.1), ih h.2]

theorem replaceChars_self (h : old ≠ []) (new : List Char) : replaceChars old new old = new := by
  obtain ⟨c, rest, rfl⟩ := List.exists_cons_of_ne_nil h
  rw [replaceChars, if_pos (List.isPrefixOf_iff_prefix.mpr List.prefix_rfl)]
  simp [replaceChars]

theorem prefix_of_prefix_append_cons {c : Char} (hc : c ∉ old) {before after : List Char}
    (h : old <+: before ++ c :: after) : old <+: before := by
  obtain ⟨rest, hrest⟩ := h
  obtain ⟨tail, hbefore, -⟩ | ⟨tail, hold, htail⟩ := List.append_eq_append_iff.mp hrest
  · exact ⟨tail, hbefore.symm⟩
  · cases tail with
    | nil => exact ⟨[], by simpa using hold⟩
    | cons x tail =>
      -- The replaced text would reach beyond the character, and contain it.
      obtain ⟨rfl, -⟩ := List.cons.inj htail
      exact absurd (hold ▸ List.mem_append_right before List.mem_cons_self) hc

theorem infix_append_iff_of_not_mem {c : Char} {before : List Char} (h : c ∉ before)
    (wanted cs : List Char) : c :: wanted <:+: before ++ cs ↔ c :: wanted <:+: cs := by
  induction before with
  | nil => rfl
  | cons x before ih =>
    obtain ⟨hx, hbefore⟩ : c ≠ x ∧ c ∉ before := by simpa using h
    rw [List.cons_append, List.infix_cons_iff, List.cons_prefix_cons, ih hbefore]
    exact or_iff_right fun hfirst ↦ hx hfirst.1

theorem replaceChars_append_cons (hsome : old ≠ []) {c : Char} (hc : c ∉ old)
    (new before after : List Char) :
    replaceChars old new (before ++ c :: after) =
      replaceChars old new before ++ c :: replaceChars old new after := by
  have hstart (before : List Char) :
      old.isPrefixOf (before ++ c :: after) = old.isPrefixOf before := by
    rw [Bool.eq_iff_iff, List.isPrefixOf_iff_prefix, List.isPrefixOf_iff_prefix]
    exact ⟨prefix_of_prefix_append_cons hc, fun h ↦ h.trans (List.prefix_append _ _)⟩
  induction before using replaceChars.induct old with
  | case1 =>
    have hnone : ¬ old.isPrefixOf (c :: after) = true := by
      rw [← List.nil_append (c :: after), hstart]
      simpa using hsome
    rw [List.nil_append, replaceChars, List.nil_append, replaceChars, if_neg hnone]
  | case2 x before hx ih =>
    have hlength : old.length - 1 ≤ before.length := by
      have hle := (List.isPrefixOf_iff_prefix.mp hx).length_le
      rw [List.length_cons] at hle
      omega
    have hx' : old.isPrefixOf (x :: (before ++ c :: after)) = true :=
      (hstart (x :: before)).trans hx
    rw [List.cons_append, replaceChars, if_pos hx', replaceChars, if_pos hx,
      List.drop_append_of_le_length hlength, ih, List.append_assoc]
  | case3 x before hx ih =>
    have hx' : ¬ old.isPrefixOf (x :: (before ++ c :: after)) = true := by
      rwa [← List.cons_append, hstart (x :: before)]
    rw [List.cons_append, replaceChars, if_neg hx', replaceChars, if_neg hx, ih, List.cons_append]

end Replacement

def nameEnds : List Char :=
  [' ', '.', '?']

/-- The text has the name between a space and an end. -/
def Names (text name : String) : Prop :=
  ∃ last ∈ nameEnds, ' ' :: (name.toList ++ [last]) <:+: text.toList

instance (text name : String) : Decidable (Names text name) :=
  List.decidableBEx _ _

theorem not_isWordChar_nameEnds : nameEnds.any isWordChar = false := by
  decide

namespace Names

variable {text name slot : String}

theorem within (h : Names text name) : name.toList <:+: text.toList := by
  obtain ⟨last, -, hwithin⟩ := h
  exact (List.infix_append [' '] name.toList [last]).trans hwithin

theorem mem_pieces (h : Names text name) (hname : IsWord name) :
    name.toList ∈ pieces (!isWordChar ·) text.toList := by
  obtain ⟨last, hlast, before, after, htext⟩ := h
  have hspace : (!isWordChar ' ') = true := by decide
  have hend : (!isWordChar last) = true := by
    simpa using List.any_eq_false.mp not_isWordChar_nameEnds last hlast
  have hparts : text.toList = before ++ ' ' :: (name.toList ++ last :: after) := by simp [← htext]
  rw [hparts, pieces_append_cons hspace,
    pieces_append (by simpa using hname.forall_isWordChar) hend]
  exact List.mem_append_right _ List.mem_cons_self

theorem tokens_subset (h : Names text name) : tokens name ⊆ tokens text := by
  obtain ⟨last, hlast, before, after, htext⟩ := h
  have hends (c : Char) (hc : c ∈ nameEnds) : isWordChar c = false := by
    simpa using List.any_eq_false.mp not_isWordChar_nameEnds c hc
  have hparts : text.toList = before ++ ' ' :: (name.toList ++ last :: after) := by simp [← htext]
  unfold tokens
  rw [hparts, runs_append_cons (hends ' ' (by decide)), runs_append_cons (hends last hlast),
    List.map_append, List.map_append]
  exact List.subset_append_of_subset_right _ (List.subset_append_left _ _)

end Names

/-- A change of texts that keeps the separators, and changes every part between them on its own. -/
def Partwise (separators : List Char) (change : List Char → List Char) : Prop :=
  ∀ c ∈ separators, ∀ before after,
    change (before ++ c :: after) = change before ++ c :: change after

theorem partwise_id (separators : List Char) : Partwise separators id :=
  fun _ _ _ _ ↦ rfl

theorem partwise_replaceChars {separators old : List Char} (hsome : old ≠ [])
    (hold : ∀ c ∈ separators, c ∉ old) (new : List Char) :
    Partwise separators (replaceChars old new) :=
  fun c hc ↦ replaceChars_append_cons hsome (hold c hc) new

namespace Partwise

variable {separators : List Char} {change change' : List Char → List Char}

theorem comp (h : Partwise separators change) (h' : Partwise separators change') :
    Partwise separators (change ∘ change') := by
  intro c hc before after
  dsimp only [Function.comp_apply]
  rw [h' c hc, h c hc]

theorem names {text name : String} (hchange : Partwise nameEnds change) (h : Names text name) :
    Names (.ofList (change text.toList)) (.ofList (change name.toList)) := by
  obtain ⟨last, hlast, before, after, htext⟩ := h
  have hparts : text.toList = before ++ ' ' :: (name.toList ++ last :: after) := by simp [← htext]
  refine ⟨last, hlast, change before, change after, ?_⟩
  rw [String.toList_ofList, String.toList_ofList, hparts, hchange ' ' (by decide),
    hchange last hlast]
  simp

theorem runs_eq {p : Char → Bool} (hchange : Partwise separators change)
    (hplain : ∀ c ∈ separators, p c = false) (cs : List Char) :
    runs p (change cs) =
      (pieces separators.contains cs).flatMap fun part ↦ runs p (change part) := by
  -- The part before the first separator is gathered on the way to it.
  have hgathered (part cs : List Char) (hpart : ∀ c ∈ part, separators.contains c = false) :
      runs p (change (part ++ cs)) =
        (pieces separators.contains (part ++ cs)).flatMap fun part ↦ runs p (change part) := by
    induction cs generalizing part with
    | nil => simp [pieces_of_forall hpart]
    | cons c cs ih =>
      by_cases hc : c ∈ separators
      · have hrest := ih [] (by simp)
        rw [List.nil_append] at hrest
        rw [hchange c hc, runs_append_cons (hplain c hc),
          pieces_append hpart (List.contains_iff_mem.mpr hc), List.flatMap_cons, hrest]
      · have hsplit : part ++ c :: cs = (part ++ [c]) ++ cs := by simp
        rw [hsplit]
        refine ih (part ++ [c]) (List.forall_mem_append.mpr ⟨hpart, ?_⟩)
        simpa using hc
  exact hgathered [] cs (by simp)

theorem tokens_eq (hchange : Partwise nameEnds change) (text : String) :
    tokens (.ofList (change text.toList)) =
      (pieces nameEnds.contains text.toList).flatMap fun part ↦ tokens (.ofList (change part)) := by
  have hplain : ∀ c ∈ nameEnds, isWordChar c = false := by
    simpa using not_isWordChar_nameEnds
  unfold tokens
  rw [String.toList_ofList, hchange.runs_eq hplain, List.map_flatMap]
  simp

end Partwise

end WorkflowSearch.Text
