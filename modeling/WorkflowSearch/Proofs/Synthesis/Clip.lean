import Mathlib.Data.Finset.Card
import Mathlib.Data.Finset.Dedup
import Mathlib.Data.Finset.Image
import Mathlib.Data.Finset.Range
import Mathlib.Tactic.Common
import WorkflowSearch.Proofs.Lists
import WorkflowSearch.Synthesis.Splits

namespace WorkflowSearch

def freshIntents (covered : List Intent) (drafts : List Draft) : List Intent :=
  ((drafts.map (·.intent)).filter (· ∉ covered)).eraseDups

def firstPosition (drafts : List Draft) (intent : Intent) : ℕ :=
  drafts.findIdx (·.intent == intent)

section Marks

variable {room : ℕ} {covered : List Intent} {drafts rest : List Draft} {draft : Draft}
  {intent : Intent}

theorem mem_freshIntents :
    intent ∈ freshIntents covered drafts ↔ intent ∈ drafts.map (·.intent) ∧ intent ∉ covered := by
  simp [freshIntents]

theorem freshIntents_cons_of_mem (h : draft.intent ∈ covered) :
    freshIntents covered (draft :: rest) = freshIntents covered rest := by
  simp [freshIntents, h]

theorem freshIntents_cons_of_notMem (h : draft.intent ∉ covered) :
    freshIntents covered (draft :: rest) =
      draft.intent :: freshIntents (draft.intent :: covered) rest := by
  simp [freshIntents, h, List.eraseDups_cons, List.filter_filter, Bool.beq_eq_decide_eq]

theorem firstPosition_cons_self : firstPosition (draft :: rest) draft.intent = 0 := by
  simp [firstPosition, List.findIdx_cons]

theorem firstPosition_cons_of_ne (h : intent ≠ draft.intent) :
    firstPosition (draft :: rest) intent = firstPosition rest intent + 1 := by
  rw [firstPosition, List.findIdx_cons, beq_eq_false_iff_ne.mpr h.symm]
  rfl

theorem map_fst_markCovering (room : ℕ) (covered : List Intent) (drafts : List Draft) :
    (markCovering room covered drafts).1.map Prod.fst = drafts := by
  induction drafts generalizing room covered with
  | nil => rfl
  | cons draft rest ih =>
    rw [markCovering]
    split
    · exact congrArg (draft :: ·) (ih ..)
    · exact congrArg (draft :: ·) (ih ..)

theorem countP_markCovering (room : ℕ) (covered : List Intent) (drafts : List Draft) :
    (markCovering room covered drafts).1.countP (·.2) + (markCovering room covered drafts).2 =
      room := by
  induction drafts generalizing room covered with
  | nil => simp [markCovering]
  | cons draft rest ih =>
    rw [markCovering]
    split
    · next hroom =>
      have hrest := ih (room - 1) (draft.intent :: covered)
      simp only [List.countP_cons]
      simp
      omega
    · simpa using ih room covered

theorem any_markCovering_iff {i : ℕ} :
    (markCovering room covered drafts).1[i]?.any (·.2) = true ↔
      ∃ intent ∈ (freshIntents covered drafts).take room, firstPosition drafts intent = i := by
  induction drafts generalizing room covered i with
  | nil => simp [markCovering, freshIntents]
  | cons draft rest ih =>
    -- The intents of later marks are not the one of this draft, so their first drafts come later.
    have hshift {intents : List Intent} (h : draft.intent ∉ intents) :
        (∃ intent ∈ intents, firstPosition (draft :: rest) intent = i) ↔
          ∃ intent ∈ intents, firstPosition rest intent + 1 = i :=
      exists_congr fun intent ↦ and_congr_right fun hintent ↦ by
        rw [firstPosition_cons_of_ne (ne_of_mem_of_not_mem hintent h)]
    rw [markCovering]
    split
    · next hmarked =>
      obtain ⟨hroom, hnew⟩ := hmarked
      obtain ⟨room, rfl⟩ := Nat.exists_eq_add_one_of_ne_zero hroom.ne'
      have hlater : draft.intent ∉ (freshIntents (draft.intent :: covered) rest).take room :=
        fun hmem ↦ (mem_freshIntents.mp (List.mem_of_mem_take hmem)).2 List.mem_cons_self
      rw [freshIntents_cons_of_notMem hnew, List.take_succ_cons, List.exists_mem_cons_iff,
        firstPosition_cons_self, hshift hlater]
      cases i with
      | zero => simp
      | succ i => simpa using ih
    · next hunmarked =>
      have hsame : (freshIntents covered (draft :: rest)).take room =
            (freshIntents covered rest).take room ∧
          draft.intent ∉ (freshIntents covered rest).take room := by
        by_cases hknown : draft.intent ∈ covered
        · exact ⟨by rw [freshIntents_cons_of_mem hknown],
            fun hmem ↦ (mem_freshIntents.mp (List.mem_of_mem_take hmem)).2 hknown⟩
        · have hfull : room = 0 := by
            by_contra hne
            exact hunmarked ⟨Nat.pos_of_ne_zero hne, hknown⟩
          simp [hfull]
      rw [hsame.1, hshift hsame.2]
      cases i with
      | zero => simp
      | succ i => simpa using ih

end Marks

section Positions

variable {drafts : List Draft} {kept : Finset ℕ}

def draftsAt (drafts : List Draft) (kept : Finset ℕ) : List Draft :=
  (drafts.zipIdx.filter (·.2 ∈ kept)).map Prod.fst

theorem draftsAt_sublist (drafts : List Draft) (kept : Finset ℕ) :
    (draftsAt drafts kept).Sublist drafts := by
  have hsublist := (List.filter_sublist (p := (·.2 ∈ kept)) (l := drafts.zipIdx)).map Prod.fst
  rwa [List.zipIdx_map_fst] at hsublist

theorem mem_draftsAt {draft : Draft} :
    draft ∈ draftsAt drafts kept ↔ ∃ i ∈ kept, drafts[i]? = some draft := by
  simp [draftsAt, List.mem_zipIdx_iff_getElem?, and_comm]

theorem length_draftsAt (h : ∀ i ∈ kept, i < drafts.length) :
    (draftsAt drafts kept).length = kept.card := by
  have hpositions : ((List.range drafts.length).filter (· ∈ kept)).toFinset = kept := by
    ext i
    simpa using h i
  have hcount : drafts.zipIdx.countP (·.2 ∈ kept) =
      (List.range drafts.length).countP (· ∈ kept) := by
    rw [List.range_eq_range', ← List.zipIdx_map_snd, List.countP_map]
    rfl
  rw [draftsAt, List.length_map, ← List.countP_eq_length_filter, hcount,
    List.countP_eq_length_filter, ← List.toFinset_card_of_nodup (List.nodup_range.filter _),
    hpositions]

theorem draftsAt_range (drafts : List Draft) :
    draftsAt drafts (Finset.range drafts.length) = drafts := by
  rw [draftsAt, List.filter_eq_self.mpr, List.zipIdx_map_fst]
  intro entry hentry
  simpa using List.snd_lt_of_mem_zipIdx hentry

end Positions

/-- Whether the entry of a position is kept: it is marked, or those before it that are not marked
leave room. -/
def isKept (room : ℕ) (marked : List (Draft × Bool)) (i : ℕ) : Bool :=
  marked[i]?.any (·.2) || decide ((marked.take i).countP (!·.2) < room)

theorem keepMarked_eq (room : ℕ) (marked : List (Draft × Bool)) :
    keepMarked room marked = (marked.zipIdx.filter (isKept room marked ·.2)).map (·.1.1) := by
  induction marked generalizing room with
  | nil => rfl
  | cons entry rest ih =>
    obtain ⟨draft, flag⟩ := entry
    have hcons {left : ℕ}
        (h : ∀ i, isKept room ((draft, flag) :: rest) (i + 1) = isKept left rest i) :
        (((draft, flag) :: rest).zipIdx.filter (isKept room ((draft, flag) :: rest) ·.2)).map
            (·.1.1) =
          if isKept room ((draft, flag) :: rest) 0 then draft :: keepMarked left rest
          else keepMarked left rest := by
      rw [ih, List.zipIdx_cons', List.filter_cons, List.filter_map]
      simp only [Function.comp_def, Prod.map_snd, h]
      split <;> simp
    cases flag with
    | true => exact (hcons fun i ↦ by simp [isKept]).symm
    | false =>
      cases room with
      | zero => exact (hcons fun i ↦ by simp [isKept]).symm
      | succ room => exact (hcons fun i ↦ by simp [isKept]).symm

def keptPositions (room : ℕ) (marked : List (Draft × Bool)) : Finset ℕ :=
  (Finset.range marked.length).filter (isKept room marked ·)

theorem keepMarked_eq_draftsAt (room : ℕ) (marked : List (Draft × Bool)) :
    keepMarked room marked = draftsAt (marked.map Prod.fst) (keptPositions room marked) := by
  rw [keepMarked_eq, draftsAt, List.zipIdx_map, List.filter_map, List.map_map]
  refine congrArg _ (List.filter_congr fun entry hentry ↦ ?_)
  have hlt : entry.2 < marked.length := List.snd_lt_of_mem_zipIdx hentry
  simp [keptPositions, hlt]

theorem lt_of_mem_keptPositions {room : ℕ} {marked : List (Draft × Bool)} {i j : ℕ}
    (hi : i ∈ keptPositions room marked) (hunmarked : marked[i]?.any (·.2) = false)
    (hj : j < marked.length) (hdropped : j ∉ keptPositions room marked) : i < j := by
  -- Fewer entries without a mark stand before what is kept than before what is dropped.
  have hroom : (marked.take i).countP (!·.2) < room := by
    simpa [keptPositions, isKept, hunmarked] using (Finset.mem_filter.mp hi).2
  have hfull : room ≤ (marked.take j).countP (!·.2) := by
    simp [keptPositions, isKept, hj] at hdropped
    exact hdropped.2
  by_contra! hle
  have hmono : (marked.take j).countP (!·.2) ≤ (marked.take i).countP (!·.2) :=
    (List.take_sublist_take_left hle).countP_le
  omega

theorem length_keepMarked (room : ℕ) (marked : List (Draft × Bool)) :
    (keepMarked room marked).length = marked.countP (·.2) + min room (marked.countP (!·.2)) := by
  induction marked generalizing room with
  | nil => simp [keepMarked]
  | cons entry rest ih =>
    obtain ⟨draft, flag⟩ := entry
    cases flag with
    | true =>
      simp [keepMarked, ih room]
      omega
    | false =>
      cases room with
      | zero => simp [keepMarked, ih 0]
      | succ room =>
        simp [keepMarked, ih room]
        omega

/-- Where the first drafts of the first `limit` intents stand, in the order in which intents
appear. -/
def openings (drafts : List Draft) (limit : ℕ) : Finset ℕ :=
  ((drafts.map (·.intent)).eraseDups.take limit).toFinset.image (firstPosition drafts)

/-- The positions that a clip keeps: as many as the limit allows, among them the first draft of each
intent that is not too late to appear, and apart from these only drafts before all that are
dropped. -/
structure KeptByClip (drafts : List Draft) (limit : ℕ) (kept : Finset ℕ) : Prop where
  lt_length : ∀ i ∈ kept, i < drafts.length
  card_eq : kept.card = min limit drafts.length
  opening : openings drafts limit ⊆ kept
  earliest : ∀ i ∈ kept, i ∉ openings drafts limit → ∀ j < drafts.length, j ∉ kept → i < j

section Clip

variable {drafts : List Draft} {limit : ℕ} {kept kept' : Finset ℕ}

theorem mem_openings {i : ℕ} :
    i ∈ openings drafts limit ↔
      ∃ intent ∈ (drafts.map (·.intent)).eraseDups.take limit, firstPosition drafts intent = i := by
  simp [openings]

theorem KeptByClip.eq (h : KeptByClip drafts limit kept) (h' : KeptByClip drafts limit kept') :
    kept = kept' := by
  have hcard : kept.card = kept'.card := h.card_eq.trans h'.card_eq.symm
  by_contra hne
  obtain ⟨i, hi, hi'⟩ := Finset.not_subset.mp fun hsub ↦
    hne (Finset.eq_of_subset_of_card_le hsub hcard.ge)
  obtain ⟨j, hj', hj⟩ := Finset.not_subset.mp fun hsub ↦
    hne (Finset.eq_of_subset_of_card_le hsub hcard.le).symm
  -- Neither is an opening, so each of the two would have to come before the other.
  have hlt := h.earliest i hi (fun hopening ↦ hi' (h'.opening hopening)) j (h'.lt_length j hj') hj
  have hgt := h'.earliest j hj' (fun hopening ↦ hj (h.opening hopening)) i (h.lt_length i hi) hi'
  omega

theorem lt_length_of_mem_openings {i : ℕ} (h : i ∈ openings drafts limit) : i < drafts.length := by
  obtain ⟨intent, hintent, rfl⟩ := mem_openings.mp h
  have hmem := List.mem_eraseDups.mp (List.mem_of_mem_take hintent)
  obtain ⟨draft, hdraft, rfl⟩ := List.mem_map.mp hmem
  exact List.findIdx_lt_length.mpr ⟨draft, hdraft, beq_self_eq_true _⟩

theorem keptByClip_keptPositions {room : ℕ} {marked : List (Draft × Bool)}
    (hmarked : markCovering limit [] drafts = (marked, room)) (h : limit ≤ drafts.length) :
    KeptByClip drafts limit (keptPositions room marked) := by
  have hdrafts : marked.map Prod.fst = drafts := by
    rw [← map_fst_markCovering limit [] drafts, hmarked]
  have hlength : marked.length = drafts.length := by rw [← hdrafts, List.length_map]
  have hopening (i : ℕ) : marked[i]?.any (·.2) = true ↔ i ∈ openings drafts limit := by
    have hmark := @any_markCovering_iff limit [] drafts i
    rw [hmarked] at hmark
    simpa [mem_openings, freshIntents] using hmark
  have hrange : ∀ i ∈ keptPositions room marked, i < drafts.length := fun i hi ↦
    hlength ▸ Finset.mem_range.mp (Finset.mem_filter.mp hi).1
  refine ⟨hrange, ?_, fun i hi ↦ ?_, fun i hi hother j hj hdropped ↦ ?_⟩
  · have hcount : marked.countP (·.2) + room = limit := by
      simpa [hmarked] using countP_markCovering limit [] drafts
    have hmembers : drafts.length = marked.countP (·.2) + marked.countP (!·.2) := by
      rw [← hlength, List.length_eq_countP_add_countP (fun entry : Draft × Bool ↦ entry.2)]
      simp
    have hkept : (keptPositions room marked).card = (keepMarked room marked).length := by
      rw [keepMarked_eq_draftsAt, hdrafts, length_draftsAt hrange]
    rw [hkept, length_keepMarked]
    omega
  · rw [keptPositions, Finset.mem_filter, Finset.mem_range, hlength]
    exact ⟨lt_length_of_mem_openings hi, by rw [isKept, (hopening i).mpr hi, Bool.true_or]⟩
  · refine lt_of_mem_keptPositions hi ?_ (hlength ▸ hj) hdropped
    rwa [← Bool.not_eq_true, hopening]

theorem exists_keptByClip (drafts : List Draft) (limit : ℕ) :
    ∃ kept, KeptByClip drafts limit kept ∧
      clipPreservingCoverage drafts limit = draftsAt drafts kept := by
  unfold clipPreservingCoverage
  split
  · next hfits =>
    refine ⟨Finset.range drafts.length, ⟨?_, ?_, fun i hi ↦ ?_, ?_⟩, (draftsAt_range drafts).symm⟩
    · exact fun i ↦ Finset.mem_range.mp
    · rw [Finset.card_range, Nat.min_eq_right hfits]
    · exact Finset.mem_range.mpr (lt_length_of_mem_openings hi)
    · exact fun _ _ _ j hj hdropped ↦ absurd (Finset.mem_range.mpr hj) hdropped
  · next hfull =>
    cases hmarked : markCovering limit [] drafts with
    | mk marked room =>
      refine ⟨_, keptByClip_keptPositions hmarked (Nat.le_of_not_le hfull), ?_⟩
      have hdrafts := map_fst_markCovering limit [] drafts
      rw [hmarked] at hdrafts
      exact (keepMarked_eq_draftsAt room marked).trans (congrArg (draftsAt · _) hdrafts)

theorem clipPreservingCoverage_sublist (drafts : List Draft) (limit : ℕ) :
    (clipPreservingCoverage drafts limit).Sublist drafts := by
  obtain ⟨kept, -, hclip⟩ := exists_keptByClip drafts limit
  rw [hclip]
  exact draftsAt_sublist drafts kept

@[simp]
theorem length_clipPreservingCoverage (drafts : List Draft) (limit : ℕ) :
    (clipPreservingCoverage drafts limit).length = min limit drafts.length := by
  obtain ⟨kept, hkept, hclip⟩ := exists_keptByClip drafts limit
  rw [hclip, length_draftsAt hkept.lt_length, hkept.card_eq]

theorem exists_mem_clipPreservingCoverage {intent : Intent}
    (h : intent ∈ (drafts.map (·.intent)).eraseDups.take limit) :
    ∃ draft ∈ clipPreservingCoverage drafts limit,
      drafts.find? (·.intent == intent) = some draft := by
  obtain ⟨kept, hkept, hclip⟩ := exists_keptByClip drafts limit
  have hopening : firstPosition drafts intent ∈ openings drafts limit :=
    mem_openings.mpr ⟨intent, h, rfl⟩
  have hdraft := List.getElem?_eq_getElem (lt_length_of_mem_openings hopening)
  refine ⟨_, hclip ▸ mem_draftsAt.mpr ⟨_, hkept.opening hopening, hdraft⟩, ?_⟩
  rw [List.find?_eq_getElem?_findIdx]
  exact hdraft

theorem mem_take_eraseDups {β : Type} [BEq β] [LawfulBEq β] {before : List β} {b : β}
    (hnew : b ∉ before) (hroom : before.eraseDups.length < limit) (after : List β) :
    b ∈ (before ++ b :: after).eraseDups.take limit := by
  have hfirst : (b :: after).removeAll before = b :: after.removeAll before := by
    simp [List.removeAll, hnew]
  have hnew' : b ∉ before.eraseDups := by rwa [List.mem_eraseDups]
  rw [List.mem_take_iff_idxOf_lt (by simp), List.eraseDups_append, hfirst, List.eraseDups_cons,
    List.idxOf_append_of_notMem hnew', List.idxOf_cons_self]
  exact hroom

theorem mem_clipPreservingCoverage {before after : List Draft} {draft : Draft}
    (hbefore : ∀ earlier ∈ before, earlier.intent ≠ draft.intent)
    (hroom : (before.map (·.intent)).toFinset.card < limit) :
    draft ∈ clipPreservingCoverage (before ++ draft :: after) limit := by
  have hnew : draft.intent ∉ before.map (·.intent) := by simpa using hbefore
  have hlength : (before.map (·.intent)).eraseDups.length < limit := by
    have hsame : (before.map (·.intent)).eraseDups.toFinset = (before.map (·.intent)).toFinset := by
      ext intent
      rw [List.mem_toFinset, List.mem_toFinset, List.mem_eraseDups]
    rwa [← List.toFinset_card_of_nodup (nodup_eraseDups _), hsame]
  have hleading :
      draft.intent ∈ ((before ++ draft :: after).map (·.intent)).eraseDups.take limit := by
    rw [List.map_append]
    exact mem_take_eraseDups hnew hlength _
  obtain ⟨first, hfirst, hfound⟩ := exists_mem_clipPreservingCoverage hleading
  have hnone : before.find? (·.intent == draft.intent) = none :=
    List.find?_eq_none.mpr fun earlier hearlier ↦ by simpa using hbefore earlier hearlier
  have hsame : draft = first := by simpa [List.find?_append, hnone] using hfound
  exact hsame ▸ hfirst

/-- A clip keeps drafts in their order, as many as the limit allows. Which ones is determined: the
first draft of each of the first `limit` intents to appear, and of the others the earliest. If there
are no more intents than that, none is lost. -/
theorem clipPreservingCoverage_keeps (drafts : List Draft) (limit : ℕ) :
    let clipped := clipPreservingCoverage drafts limit
    clipped.Sublist drafts ∧ clipped.length = min limit drafts.length ∧
      (∃ kept, (∀ positions, KeptByClip drafts limit positions ↔ positions = kept) ∧
        clipped = draftsAt drafts kept) ∧
      ((drafts.map (·.intent)).eraseDups.length ≤ limit →
        ∀ draft ∈ drafts, draft.intent ∈ clipped.map (·.intent)) := by
  intro clipped
  obtain ⟨kept, hkept, hclip⟩ := exists_keptByClip drafts limit
  refine ⟨clipPreservingCoverage_sublist .., length_clipPreservingCoverage ..,
    ⟨kept, fun positions ↦ ⟨fun h ↦ h.eq hkept, fun h ↦ h ▸ hkept⟩, hclip⟩,
    fun hlimit draft hdraft ↦ ?_⟩
  have hleading : draft.intent ∈ (drafts.map (·.intent)).eraseDups.take limit := by
    rw [List.take_of_length_le hlimit, List.mem_eraseDups]
    exact List.mem_map_of_mem hdraft
  obtain ⟨first, hfirst, hfound⟩ := exists_mem_clipPreservingCoverage hleading
  have hintent : first.intent = draft.intent := by simpa using List.find?_some hfound
  exact hintent ▸ List.mem_map_of_mem hfirst

end Clip
end WorkflowSearch
