import Mathlib.Data.List.Infix
import Mathlib.Tactic.Common
import WorkflowSearch.Blueprint.Wiring

namespace WorkflowSearch

section Separators

variable {β : Type} {c : β} {as bs xs ys : List β}

theorem append_cons_inj_first (has : c ∉ as) (hbs : c ∉ bs) (h : as ++ c :: xs = bs ++ c :: ys) :
    as = bs ∧ xs = ys := by
  induction as generalizing bs with
  | nil =>
    cases bs with
    | nil => exact ⟨rfl, (List.cons.inj h).2⟩
    | cons b bs => exact absurd ((List.cons.inj h).1 ▸ List.mem_cons_self) hbs
  | cons a as ih =>
    cases bs with
    | nil => exact absurd ((List.cons.inj h).1 ▸ List.mem_cons_self) has
    | cons b bs =>
      obtain ⟨rfl, hrest⟩ := List.cons.inj h
      rw [List.mem_cons, not_or] at has hbs
      obtain ⟨rfl, hxs⟩ := ih has.2 hbs.2 hrest
      exact ⟨rfl, hxs⟩

theorem append_cons_inj_last (hxs : c ∉ xs) (hys : c ∉ ys) (h : as ++ c :: xs = bs ++ c :: ys) :
    as = bs ∧ xs = ys := by
  have hreverse := congrArg List.reverse h
  simp only [List.reverse_append, List.reverse_cons, List.append_assoc, List.singleton_append]
    at hreverse
  obtain ⟨hx, ha⟩ := append_cons_inj_first (by simpa using hxs) (by simpa using hys) hreverse
  exact ⟨List.reverse_injective ha, List.reverse_injective hx⟩

theorem arrow_inj {a b x y : String} (hx : '>' ∉ x.toList) (hy : '>' ∉ y.toList)
    (h : a ++ "->" ++ x ++ ")" = b ++ "->" ++ y ++ ")") : a = b ∧ x = y := by
  have harrow (s t : String) : (s ++ "->" ++ t).toList = s.toList ++ ['-'] ++ '>' :: t.toList := by
    simp
  have hchars := congrArg String.toList ((String.append_left_inj ")").mp h)
  rw [harrow, harrow] at hchars
  obtain ⟨hfirst, hsecond⟩ := append_cons_inj_last hx hy hchars
  exact ⟨String.toList_inj.mp (List.append_cancel_right hfirst), String.toList_inj.mp hsecond⟩

end Separators

def IsOperatorName (name : String) : Prop :=
  ∃ mode : Topology, name ∈ (mode.operators []).map (·.name)

theorem IsOperatorName.not_mem {name : String} (h : IsOperatorName name) :
    ',' ∉ name.toList ∧ '>' ∉ name.toList := by
  have hall (mode : Topology) : ((mode.operators []).map (·.name)).all
      (fun name ↦ !name.toList.contains ',' && !name.toList.contains '>') = true := by
    cases mode <;> decide
  obtain ⟨mode, hname⟩ := h
  simpa using List.all_eq_true.mp (hall mode) name hname

namespace Topology

theorem name_injective : Function.Injective name := by
  intro mode mode' h
  cases mode <;> cases mode' <;> simp_all [name]

theorem not_mem_name (mode : Topology) : '>' ∉ mode.name.toList := by
  cases mode <;> decide

end Topology

namespace Mutation

def NamesOperator : Mutation → Prop
  | .promptRevision operator _ | .toolAdd _ operator => IsOperatorName operator
  | .toolRemove _ | .toolNoop | .topologySwitch .. => True

/-- How the texts of a kind of mutation begin. -/
def stem : Mutation → String
  | .promptRevision .. => "prompt:rewrite("
  | .toolAdd .. => "tool:add("
  | .toolRemove _ => "tool:remove("
  | .toolNoop => "tool:noop"
  | .topologySwitch .. => "topology:switch("

def body : Mutation → String
  | .promptRevision operator variantId => operator ++ "," ++ variantId ++ ")"
  | .toolAdd tool operator => tool ++ "->" ++ operator ++ ")"
  | .toolRemove tool => tool ++ ")"
  | .toolNoop => ""
  | .topologySwitch before after => before.name ++ "->" ++ after.name ++ ")"

theorem text_eq (mutation : Mutation) : mutation.text = mutation.stem ++ mutation.body := by
  cases mutation <;> simp only [stem, body, ← String.append_assoc] <;> rfl

def stems : List String :=
  ["prompt:rewrite(", "tool:add(", "tool:remove(", "tool:noop", "topology:switch("]

theorem stem_mem_stems (mutation : Mutation) : mutation.stem ∈ stems := by
  cases mutation <;> simp [stem, stems]

theorem stems_prefix_free : ∀ a ∈ stems, ∀ b ∈ stems,
    a.toList.isPrefixOf b.toList = true → a = b := by
  simp [stems]

theorem text_eq_text_iff {m m' : Mutation} :
    m.text = m'.text ↔ m.stem = m'.stem ∧ m.body = m'.body := by
  constructor
  · intro h
    have hfree {a b : Mutation} (hbegins : a.stem.toList <+: b.stem.toList) : a.stem = b.stem :=
      stems_prefix_free _ a.stem_mem_stems _ b.stem_mem_stems
        (List.isPrefixOf_iff_prefix.mpr hbegins)
    rw [text_eq, text_eq] at h
    have hchars := congrArg String.toList h
    rw [String.toList_append, String.toList_append] at hchars
    have hstem : m.stem = m'.stem := by
      obtain hless | hless := List.prefix_or_prefix_of_prefix
        (List.prefix_append _ _) (hchars ▸ List.prefix_append m'.stem.toList m'.body.toList)
      · exact hfree hless
      · exact (hfree hless).symm
    rw [hstem] at h
    exact ⟨hstem, (String.append_right_inj _).mp h⟩
  · rintro ⟨hstem, hbody⟩
    rw [text_eq, text_eq, hstem, hbody]

/-- The operators in a text end it but for a bracket, or begin it behind the stem, so they and the
free texts beside them can be read off. -/
theorem text_injOn {m m' : Mutation} (hm : m.NamesOperator) (hm' : m'.NamesOperator)
    (h : m.text = m'.text) : m = m' := by
  obtain ⟨hstem, hbody⟩ := text_eq_text_iff.mp h
  cases m with
  | promptRevision operator variantId =>
    cases m' with
    | promptRevision operator' variantId' =>
      have hchars := congrArg String.toList ((String.append_left_inj ")").mp hbody)
      have hcomma : ",".toList = [','] := rfl
      simp only [String.toList_append, hcomma, List.append_assoc, List.singleton_append] at hchars
      obtain ⟨hoperator, hvariant⟩ := append_cons_inj_first hm.not_mem.1 hm'.not_mem.1 hchars
      rw [String.toList_inj.mp hoperator, String.toList_inj.mp hvariant]
    | _ => simp [stem] at hstem
  | toolAdd tool operator =>
    cases m' with
    | toolAdd tool' operator' =>
      obtain ⟨rfl, rfl⟩ := arrow_inj hm.not_mem.2 hm'.not_mem.2 hbody
      rfl
    | _ => simp [stem] at hstem
  | toolRemove tool =>
    cases m' with
    | toolRemove tool' => rw [(String.append_left_inj ")").mp hbody]
    | _ => simp [stem] at hstem
  | toolNoop =>
    cases m' with
    | toolNoop => rfl
    | _ => simp [stem] at hstem
  | topologySwitch before after =>
    cases m' with
    | topologySwitch before' after' =>
      obtain ⟨hbefore, hafter⟩ := arrow_inj after.not_mem_name after'.not_mem_name hbody
      rw [Topology.name_injective hbefore, Topology.name_injective hafter]
    | _ => simp [stem] at hstem

end Mutation

end WorkflowSearch
