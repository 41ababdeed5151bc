import Mathlib.Data.List.DropRight
import WorkflowSearch.Judge.Rubric
import WorkflowSearch.Proofs.Scalar.Numbers

namespace WorkflowSearch.Rubric

def Braced (text : List Char) : Prop :=
  ∃ inner, text = '\x7b' :: (inner ++ ['\x7d'])

/-- No closing brace stands behind an opening one. -/
def Unclosed (text : List Char) : Prop :=
  ∀ before after, text = before ++ '\x7b' :: after → '\x7d' ∉ after

theorem verdictText?_eq (reply : List Char) :
    verdictText? reply =
      let text := (reply.dropWhile (· ≠ '\x7b')).rdropWhile (· ≠ '\x7d')
      if text.isEmpty then none else some text :=
  rfl

theorem verdictText?_append {before verdict after : List Char} (hbefore : '\x7b' ∉ before)
    (hverdict : Braced verdict) (hafter : '\x7d' ∉ after) :
    verdictText? (before ++ verdict ++ after) = some verdict := by
  obtain ⟨inner, rfl⟩ := hverdict
  have hstart : (before ++ '\x7b' :: (inner ++ ['\x7d']) ++ after).dropWhile (· ≠ '\x7b') =
      '\x7b' :: (inner ++ ['\x7d']) ++ after := by
    have hskip : ∀ c ∈ before, decide (c ≠ '\x7b') = true := fun c hc ↦
      decide_eq_true fun hbrace ↦ hbefore (hbrace ▸ hc)
    rw [List.append_assoc, List.dropWhile_append_of_pos hskip, List.cons_append,
      List.dropWhile_cons_of_neg (by simp)]
  have hend : ('\x7b' :: (inner ++ ['\x7d']) ++ after).rdropWhile (· ≠ '\x7d') =
      '\x7b' :: (inner ++ ['\x7d']) := by
    have hskip : ∀ c ∈ after.reverse, decide (c ≠ '\x7d') = true := fun c hc ↦
      decide_eq_true fun hbrace ↦ hafter (hbrace ▸ List.mem_reverse.mp hc)
    rw [List.rdropWhile, List.reverse_append, List.dropWhile_append_of_pos hskip,
      ← List.rdropWhile, ← List.cons_append, List.rdropWhile_concat_neg _ _ _ (by simp)]
  rw [verdictText?_eq, hstart, hend]
  rfl

theorem verdictText?_of_unclosed {reply : List Char} (h : Unclosed reply) :
    verdictText? reply = none := by
  have hnone : (reply.dropWhile (· ≠ '\x7b')).rdropWhile (· ≠ '\x7d') = [] := by
    have hsplit := List.takeWhile_append_dropWhile (p := (· ≠ '\x7b')) (l := reply)
    cases hstart : reply.dropWhile (· ≠ '\x7b') with
    | nil => rfl
    | cons first after =>
      have hfirst : first = '\x7b' := by
        have hsome : reply.dropWhile (· ≠ '\x7b') ≠ [] := hstart ▸ List.cons_ne_nil first after
        have hnot := List.head_dropWhile_not (· ≠ '\x7b') hsome
        simpa only [hstart, List.head_cons, decide_eq_false_iff_not, not_not] using hnot
      subst hfirst
      rw [hstart] at hsplit
      have hafter := h _ after hsplit.symm
      rw [List.rdropWhile_eq_nil_iff, List.forall_mem_cons]
      exact ⟨by decide, fun c hc ↦ decide_eq_true fun hbrace ↦ hafter (hbrace ▸ hc)⟩
  rw [verdictText?_eq, hnone]
  rfl

section Verdicts

variable {α : Type} [Scalar α] {decode : String → Except String (α × String)}

theorem readVerdict_append {before verdict after : String} (hbefore : '\x7b' ∉ before.toList)
    (hverdict : Braced verdict.toList) (hafter : '\x7d' ∉ after.toList) :
    readVerdict decode (before ++ verdict ++ after) =
      match decode verdict with
      | .error detail => .error (.unreadableReply detail)
      | .ok (score, rationale) =>
        if Scalar.isFinite score then .ok (.clamped score rationale)
        else .error (.unreadableReply "score is not a finite number") := by
  unfold readVerdict
  rw [String.toList_append, String.toList_append, verdictText?_append hbefore hverdict hafter]
  cases hdecode : decode verdict with
  | error detail => simp only [String.ofList_toList, hdecode]
  | ok answer => simp only [String.ofList_toList, hdecode]

theorem readVerdict_of_unclosed {reply : String} (h : Unclosed reply.toList) :
    readVerdict decode reply = .error (.unreadableReply
      ("no JSON object in reply: " ++ .ofList (reply.toList.take 120))) := by
  rw [readVerdict, verdictText?_of_unclosed h]

theorem exists_finite_of_readVerdict {reply : String} {score : Score α}
    (h : readVerdict decode reply = .ok score) :
    ∃ value, Scalar.isFinite value = true ∧ score.value = Scalar.clamp 0 1 value := by
  unfold readVerdict at h
  split at h
  · cases h
  split at h
  · cases h
  split at h
  · next hfinite =>
    obtain rfl := Except.ok.inj h
    exact ⟨_, hfinite, rfl⟩
  · cases h

end Verdicts

/-- Whatever decodes the verdict, prose around it changes nothing: without an opening brace before
it and a closing one behind it, the verdict is read as it is on its own, and a finite score is taken
over. Scores lie between zero and one. A reply where no closing brace stands behind an opening one
cannot be read. -/
theorem readVerdict_tolerates_prose (decode : String → Except String (Double × String)) :
    (∀ before verdict after : String, '\x7b' ∉ before.toList → Braced verdict.toList →
      '\x7d' ∉ after.toList →
        readVerdict decode (before ++ verdict ++ after) = readVerdict decode verdict ∧
        ∀ score rationale, decode verdict = .ok (score, rationale) → score.isFinite = true →
          readVerdict decode verdict = .ok ⟨Scalar.clamp 0 1 score, rationale⟩) ∧
      (∀ reply score, readVerdict decode reply = .ok score → 0 ≤ score.value ∧ score.value ≤ 1) ∧
      ∀ reply : String, Unclosed reply.toList →
        readVerdict decode reply = .error (.unreadableReply
          ("no JSON object in reply: " ++ .ofList (reply.toList.take 120))) := by
  refine ⟨fun before verdict after hbefore hverdict hafter ↦ ?_, fun reply score hscore ↦ ?_,
    fun reply hreply ↦ readVerdict_of_unclosed hreply⟩
  · have halone : readVerdict decode ("" ++ verdict ++ "") = _ :=
      readVerdict_append (by simp) hverdict (by simp)
    rw [String.empty_append, String.append_empty] at halone
    refine ⟨(readVerdict_append hbefore hverdict hafter).trans halone.symm, ?_⟩
    intro score rationale hdecode hfinite
    rw [halone, hdecode]
    exact if_pos hfinite
  · obtain ⟨value, hfinite, hvalue⟩ := exists_finite_of_readVerdict hscore
    rw [hvalue]
    exact Scalar.clamp_mem (by decide) (Double.isNumber_of_isFinite hfinite)

def generousVerdict : String :=
  "\x7b\"score\": 1.5, \"rationale\": \"exact\"\x7d"

/-- A verdict between a sentence with a closing brace and one with an opening brace is the verdict
alone; a closing brace before an opening one is no verdict. -/
theorem readVerdict_between_sentences :
    let reply := "Verdict:\x7d " ++ generousVerdict ++ " as asked \x7b"
    readVerdict decodeVerdict reply = readVerdict decodeVerdict generousVerdict ∧
      readVerdict decodeVerdict reply = .ok ⟨1, "exact"⟩ ∧
      readVerdict decodeVerdict "\x7d\x7b" =
        .error (.unreadableReply "no JSON object in reply: \x7d\x7b") := by
  intro reply
  have hdecode : decodeVerdict generousVerdict = .ok (1.5, "exact") := by rfl
  have hone : Scalar.clamp 0 1 (1.5 : Double) = 1 := by rfl
  have hbraced : Braced generousVerdict.toList :=
    ⟨"\"score\": 1.5, \"rationale\": \"exact\"".toList, by decide +kernel⟩
  have hturned : Unclosed "\x7d\x7b".toList := by
    rintro (_ | ⟨_, _ | ⟨_, before⟩⟩) after hsplit <;> simp_all
  obtain ⟨hprose, -, hunclosed⟩ := readVerdict_tolerates_prose decodeVerdict
  obtain ⟨hsame, hscore⟩ := hprose "Verdict:\x7d " generousVerdict " as asked \x7b"
    (by decide +kernel) hbraced (by decide +kernel)
  refine ⟨hsame, hsame.trans ?_, hunclosed _ hturned⟩
  rw [hscore 1.5 "exact" hdecode (by decide +kernel), hone]

end WorkflowSearch.Rubric
