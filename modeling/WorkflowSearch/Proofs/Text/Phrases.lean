import WorkflowSearch.Proofs.Text.Search
import WorkflowSearch.Proofs.Text.Tokens

namespace WorkflowSearch.Text

theorem space_not_mem_of_mem_tokens {text token : String} (h : token ∈ tokens text) :
    ' ' ∉ token.toList := by
  obtain ⟨run, hrun, rfl⟩ := List.mem_map.mp h
  have hword := not_of_mem_pieces (List.mem_of_mem_filter hrun)
  refine space_not_mem_lowercase fun hspace ↦ ?_
  rw [String.toList_ofList] at hspace
  exact absurd (hword ' ' hspace) (by decide)

def isNoSpace (c : Char) : Bool :=
  c ≠ ' '

theorem isNoSpace_space : isNoSpace ' ' = false :=
  rfl

theorem runs_normalize (text : String) :
    runs isNoSpace (normalize text).toList = (tokens text).map String.toList := by
  refine runs_intercalate isNoSpace_space fun token htoken ↦ ?_
  refine ⟨ne_empty_of_mem_tokens htoken, fun c hc ↦ decide_eq_true ?_⟩
  rintro rfl
  exact space_not_mem_of_mem_tokens htoken hc

theorem normalize_eq_iff {text text' : String} :
    normalize text = normalize text' ↔ tokens text = tokens text' := by
  constructor
  · intro h
    have hruns := congrArg (fun s ↦ runs isNoSpace s.toList) h
    simp only [runs_normalize] at hruns
    exact List.map_injective_iff.mpr (fun _ _ ↦ String.toList_inj.mp) hruns
  · intro h
    rw [normalize, normalize, h]

def framed (text : String) : String :=
  " " ++ text ++ " "

theorem toList_framed (text : String) : (framed text).toList = ' ' :: (text.toList ++ [' ']) := by
  rw [framed, String.toList_append, String.toList_append]
  rfl

theorem toList_framed_intercalate {words : List String} (h : words ≠ []) :
    (framed (" ".intercalate words)).toList = words.flatMap (' ' :: ·.toList) ++ [' '] := by
  rw [toList_framed]
  induction words with
  | nil => exact absurd rfl h
  | cons word words ih =>
    cases words with
    | nil => simp
    | cons next words =>
      rw [List.flatMap_cons, List.append_assoc, ← ih (List.cons_ne_nil _ _),
        String.intercalate_cons_cons, String.toList_append, String.toList_append]
      simp

theorem tokens_infix_of_framed {text phrase : String}
    (h : (framed (normalize phrase)).toList <:+: (framed (normalize text)).toList) :
    tokens phrase <:+: tokens text := by
  obtain ⟨before, after, h⟩ := h
  have hsplit : before ++ ' ' :: ((normalize phrase).toList ++ ' ' :: after) =
      [] ++ ' ' :: ((normalize text).toList ++ ' ' :: []) := by
    simpa [toList_framed] using h
  -- The runs between spaces are the tokens, and a space splits them as it splits the text.
  have hruns := congrArg (runs isNoSpace) hsplit
  simp only [runs_append_cons isNoSpace_space, runs_normalize] at hruns
  have hnone : runs isNoSpace [] = [] := rfl
  rw [hnone, List.nil_append, List.append_nil, ← List.append_assoc] at hruns
  have hinfix : (tokens phrase).map String.toList <:+: (tokens text).map String.toList :=
    ⟨_, _, hruns⟩
  simpa [Function.comp_def] using hinfix.map String.ofList

theorem framed_infix_of_tokens {text phrase : String} (hsome : tokens phrase ≠ [])
    (h : tokens phrase <:+: tokens text) :
    (framed (normalize phrase)).toList <:+: (framed (normalize text)).toList := by
  have hsome' : tokens text ≠ [] := fun hnone ↦ hsome (List.infix_nil.mp (hnone ▸ h))
  obtain ⟨before, after, h⟩ := h
  rw [normalize, normalize, toList_framed_intercalate hsome, toList_framed_intercalate hsome', ← h,
    List.flatMap_append, List.flatMap_append]
  -- What follows the phrase begins with a space, be it that of a token or the last one.
  obtain ⟨rest, hrest⟩ : ∃ rest, after.flatMap (' ' :: ·.toList) ++ [' '] = ' ' :: rest := by
    cases after with
    | nil => exact ⟨[], rfl⟩
    | cons token after => exact ⟨_, rfl⟩
  refine ⟨before.flatMap (' ' :: ·.toList), rest, ?_⟩
  rw [List.append_assoc _ _ [' '], hrest]
  simp

theorem containsPhrase_normalize_iff {text phrase : String} :
    containsPhrase (normalize text) phrase = true ↔
      tokens phrase ≠ [] ∧ tokens phrase <:+: tokens text := by
  by_cases hnone : tokens phrase = []
  · simp [containsPhrase, (normalize_eq_empty_iff phrase).mpr hnone, hnone]
  · have hsome : normalize phrase ≠ "" := mt (normalize_eq_empty_iff phrase).mp hnone
    have hframed : containsPhrase (normalize text) phrase =
        contains (framed (normalize text)) (framed (normalize phrase)) :=
      if_neg (by simpa using hsome)
    rw [hframed, contains_iff_infix, and_iff_right hnone]
    exact ⟨tokens_infix_of_framed, framed_infix_of_tokens hnone⟩

theorem abstains_iff {text : String} :
    abstains text = true ↔ ∃ marker ∈ abstentionMarkers, tokens marker <:+: tokens text := by
  have hsome : ∀ marker ∈ abstentionMarkers, tokens marker ≠ [] := by decide
  rw [abstains, List.any_eq_true]
  refine exists_congr fun marker ↦ and_congr_right fun hmarker ↦ ?_
  rw [containsPhrase_normalize_iff, and_iff_right (hsome marker hmarker)]

/-- A phrase is found in a normalized text exactly if it has words and they stand in a row among the
words of the text. So an answer declines exactly if the words of a marker stand in it like that, and
a keyword of one word is found only as a whole word. -/
theorem phrases_match_words (text phrase : String) :
    (containsPhrase (normalize text) phrase = true ↔
      tokens phrase ≠ [] ∧ tokens phrase <:+: tokens text) ∧
    (abstains text = true ↔ ∃ marker ∈ abstentionMarkers, tokens marker <:+: tokens text) ∧
    ∀ keyword, tokens phrase = [keyword] →
      (containsPhrase (normalize text) phrase = true ↔ keyword ∈ tokens text) := by
  refine ⟨containsPhrase_normalize_iff, abstains_iff, fun keyword hkeyword ↦ ?_⟩
  rw [containsPhrase_normalize_iff, hkeyword, and_iff_right (List.cons_ne_nil _ _),
    List.singleton_infix_iff]

/-- The keyword of a longer word is not found in it. -/
theorem action_not_in_transaction :
    tokens "action" = ["action"] ∧ tokens "Transaction" = ["transaction"] ∧
      containsPhrase (normalize "Transaction totals") "action" = false ∧
      containsPhrase (normalize "Transaction totals") "Transaction" = true := by
  obtain ⟨-, -, haction⟩ := phrases_match_words "Transaction totals" "action"
  obtain ⟨-, -, htransaction⟩ := phrases_match_words "Transaction totals" "Transaction"
  refine ⟨by decide, by decide, ?_, (htransaction "transaction" (by decide)).mpr (by decide)⟩
  exact Bool.eq_false_iff.mpr (mt (haction "action" (by decide)).mp (by decide))

end WorkflowSearch.Text
