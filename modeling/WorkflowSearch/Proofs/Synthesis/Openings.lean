import Mathlib.Data.List.TakeWhile
import WorkflowSearch.Proofs.Synthesis.Drafts
import WorkflowSearch.Proofs.Text.Words

namespace WorkflowSearch

open Text (Begins)

def Intent.verbs : Intent → List String
  | .query => ["Find", "Which", "List", "Locate", "What", "Enumerate"]
  | .analytics => ["Rank", "Detect", "Summarize", "Order", "Spot", "Outline"]
  | .modeling => ["Propose", "Design", "Describe", "Suggest"]
  | .ingest => ["Plan", "Define", "Map", "Draft"]
  | .qa => ["Explain", "Give", "Clarify", "Provide"]

def intentOfKey? (key : String) : Option Intent :=
  Intent.all.find? fun intent ↦
    (intent.verbs.map fun verb ↦ verb.toList.map Char.toLower).contains
      (key.toList.takeWhile (· ≠ ' '))

theorem templates_begin (intent : Intent) :
    ∀ template ∈ intent.templates, ∃ verb ∈ intent.verbs, Begins verb template.text := by
  unfold Begins
  cases intent <;> decide +kernel

theorem mem_verbs_of_swap (intent : Intent) :
    ∀ swap ∈ verbSwaps, swap.1 ∈ intent.verbs → swap.2 ∈ intent.verbs := by
  cases intent <;> decide

theorem verbs_plain (intent : Intent) :
    ∀ verb ∈ intent.verbs, verb ≠ "" ∧ '\x7b' ∉ verb.toList ∧ ' ' ∉ verb.toList ∧
      verb.toList.any Text.isBlank = false := by
  cases intent <;> decide +kernel

theorem swaps_plain : ∀ swap ∈ verbSwaps, ' ' ∉ swap.1.toList := by
  decide

theorem intentOfKey?_lowercase (intent : Intent) :
    ∀ verb ∈ intent.verbs, ' ' ∉ (Text.lowercase verb).toList ∧
      intentOfKey? (Text.lowercase verb) = some intent := by
  cases intent <;> decide

theorem intentOfKey?_normalizedQuestion {intent : Intent} {verb question : String}
    (hverb : verb ∈ intent.verbs) (h : Begins verb question) :
    intentOfKey? (normalizedQuestion question) = some intent := by
  obtain ⟨hsome, -, -, hblank⟩ := verbs_plain intent verb hverb
  obtain ⟨hspace, hintent⟩ := intentOfKey?_lowercase intent verb hverb
  obtain ⟨rest, hwords⟩ := h.words hsome (by simpa using hblank)
  have hplain : ∀ c ∈ (Text.lowercase verb).toList, decide (c ≠ ' ') = true := fun c hc ↦
    decide_eq_true fun hc' ↦ hspace (hc' ▸ hc)
  have hfirst : (normalizedQuestion question).toList.takeWhile (· ≠ ' ') =
      (Text.lowercase verb).toList.takeWhile (· ≠ ' ') := by
    rw [normalizedQuestion, hwords, List.map_cons, String.toList_intercalate, List.map_cons]
    cases rest with
    | nil => simp
    | cons word rest =>
      rw [List.map_cons, List.map_cons, List.intercalate_cons_cons, List.append_assoc,
        List.takeWhile_append_of_pos hplain, List.takeWhile_eq_self_iff.mpr hplain]
      simp
  rw [← hintent, intentOfKey?, intentOfKey?, hfirst]

theorem Template.begins_render {verb : String} {template : Template}
    (h : Begins verb template.text) (hverb : '\x7b' ∉ verb.toList)
    (label relation : Option String) : Begins verb (template.render label relation) := by
  have hlabel : Template.labelSlot.toList = '\x7b' :: "label\x7d".toList := by decide
  have hrelation : Template.relationSlot.toList = '\x7b' :: "relation\x7d".toList := by decide
  cases label with
  | none =>
    cases relation with
    | none => exact h
    | some relation => exact h.replace hrelation hverb (by decide)
  | some label =>
    cases relation with
    | none => exact h.replace hlabel hverb (by decide)
    | some relation =>
      exact (h.replace hlabel hverb (by decide)).replace hrelation hverb (by decide)

theorem exists_rest_of_paraphrase? {question variant : String}
    (h : paraphrase? question = some variant) :
    ∃ swap ∈ verbSwaps, ∃ rest, question.toList = swap.1.toList ++ ' ' :: rest ∧
      variant.toList = swap.2.toList ++ ' ' :: rest := by
  obtain ⟨⟨old, new⟩, hswap, h⟩ := List.exists_of_findSome?_eq_some h
  refine ⟨⟨old, new⟩, hswap, ?_⟩
  dsimp only [Text.afterStart?] at h
  split at h
  · next rest hrest =>
    split at hrest
    · next hstart =>
      obtain ⟨tail, htail⟩ := List.isPrefixOf_iff_prefix.mp hstart
      have htail' : rest.toList = tail := by
        rw [← Option.some.inj hrest, ← htail, ← String.length_toList, List.drop_left,
          String.toList_ofList]
      split at h
      · next hspace =>
        obtain rfl := Option.some.inj h
        rw [htail', List.head?_eq_some_iff] at hspace
        obtain ⟨others, rfl⟩ := hspace
        exact ⟨others, htail.symm, by rw [String.toList_append, htail']⟩
      · cases h
    · cases hrest
  · cases h

theorem exists_swap_of_paraphrase? {question variant : String}
    (h : paraphrase? question = some variant) :
    ∃ swap ∈ verbSwaps, Begins swap.1 question ∧ Begins swap.2 variant := by
  obtain ⟨swap, hswap, rest, hquestion, hvariant⟩ := exists_rest_of_paraphrase? h
  exact ⟨swap, hswap, ⟨rest, by simp [hquestion]⟩, ⟨rest, by simp [hvariant]⟩⟩

theorem Draft.Rendered.begins {schema : Schema} {draft : Draft} (h : draft.Rendered schema) :
    ∃ verb ∈ draft.intent.verbs, Begins verb draft.question := by
  obtain ⟨template, htemplate, label, -, relation, -, -, -, hquestion⟩ := h
  obtain ⟨verb, hverb, hbegins⟩ := templates_begin draft.intent template htemplate
  obtain ⟨-, hslot, hspace, -⟩ := verbs_plain draft.intent verb hverb
  have hrendered := Template.begins_render hbegins hslot label relation
  split at hquestion
  · obtain ⟨swap, hswap, hold, hnew⟩ := exists_swap_of_paraphrase? hquestion
    obtain rfl := hrendered.unique hold hspace (swaps_plain swap hswap)
    exact ⟨swap.2, mem_verbs_of_swap draft.intent swap hswap hverb, hnew⟩
  · exact ⟨verb, hverb, hquestion ▸ hrendered⟩

theorem Draft.Rendered.intentOfKey? {schema : Schema} {draft : Draft} (h : draft.Rendered schema) :
    intentOfKey? draft.key = some draft.intent := by
  obtain ⟨verb, hverb, hbegins⟩ := h.begins
  exact intentOfKey?_normalizedQuestion hverb hbegins

theorem Draft.Unanswerable.intentOfKey? {schema : Schema} {draft : Draft}
    (h : draft.Unanswerable schema) : intentOfKey? draft.key = some .query := by
  obtain ⟨subject, -, object, -, relation, -, -, hquestion⟩ := h.question
  have hverb : "Which" ∈ Intent.query.verbs := by decide
  have hstart : "Which ".toList = "Which".toList ++ [' '] := by decide
  refine intentOfKey?_normalizedQuestion hverb ?_
  rw [Begins, hquestion, hardNegativeQuestion, ← hstart]
  simp only [String.toList_append, List.append_assoc]
  exact List.prefix_append ..

end WorkflowSearch
