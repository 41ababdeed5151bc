import WorkflowSearch.Proofs.Synthesis.Integrity
import WorkflowSearch.Proofs.Synthesis.Openings
import WorkflowSearch.Proofs.Text.Names
import WorkflowSearch.Proofs.Text.Search

namespace WorkflowSearch

open Text (Names IsWord Partwise)

section Slots

variable {label relation : Option String}

theorem slots_plain : ∀ slot ∈ [Template.labelSlot, Template.relationSlot], slot ≠ "" ∧
    Text.nameEnds.any slot.toList.contains = false := by
  decide

theorem brace_mem_slots :
    ∀ slot ∈ [Template.labelSlot, Template.relationSlot], '\x7b' ∈ slot.toList := by
  decide

theorem contains_slot_eq {slot text text' : String} {word word' rest : List Char}
    (hslot : slot ∈ [Template.labelSlot, Template.relationSlot]) (hword : '\x7b' ∉ word)
    (hword' : '\x7b' ∉ word') (htext : text.toList = word ++ rest)
    (htext' : text'.toList = word' ++ rest) :
    Text.contains text' slot = Text.contains text slot := by
  have hstart : ∀ slot ∈ [Template.labelSlot, Template.relationSlot],
      slot.toList.head? = some '\x7b' := by
    decide
  obtain ⟨slot', hslot'⟩ := List.head?_eq_some_iff.mp (hstart slot hslot)
  rw [Bool.eq_iff_iff, Text.contains_iff_infix, Text.contains_iff_infix, htext, htext', hslot',
    Text.infix_append_iff_of_not_mem hword, Text.infix_append_iff_of_not_mem hword']

theorem not_isWordChar_brace : Text.isWordChar '\x7b' = false := by
  decide

theorem slot_not_within {slot name : String}
    (hslot : slot ∈ [Template.labelSlot, Template.relationSlot]) (hname : IsWord name) :
    ¬ slot.toList <:+: name.toList := by
  intro hwithin
  have hchar := hname.forall_isWordChar _ (hwithin.subset (brace_mem_slots slot hslot))
  rw [not_isWordChar_brace] at hchar
  cases hchar

def fillSlot (slot : String) (term : Option String) (part : List Char) : List Char :=
  match term with
  | some term => Text.replaceChars slot.toList term.toList part
  | none => part

def fillSlots (label relation : Option String) : List Char → List Char :=
  fillSlot Template.relationSlot relation ∘ fillSlot Template.labelSlot label

theorem Template.toList_render (template : Template) (label relation : Option String) :
    (template.render label relation).toList = fillSlots label relation template.text.toList := by
  cases label <;> cases relation <;> simp [render, fillSlots, fillSlot, Text.replace]

theorem partwise_fillSlot {slot : String}
    (hslot : slot ∈ [Template.labelSlot, Template.relationSlot]) (term : Option String) :
    Partwise Text.nameEnds (fillSlot slot term) := by
  obtain ⟨hsome, hplain⟩ := slots_plain slot hslot
  cases term with
  | none => exact Text.partwise_id _
  | some term =>
    refine Text.partwise_replaceChars (mt String.toList_eq_nil_iff.mp hsome) ?_ term.toList
    simpa using hplain

theorem partwise_fillSlots (label relation : Option String) :
    Partwise Text.nameEnds (fillSlots label relation) :=
  (partwise_fillSlot (by decide) relation).comp (partwise_fillSlot (by decide) label)

theorem fillSlot_of_not_within {slot : String} {part : List Char}
    (h : ¬ slot.toList <:+: part) (term : Option String) : fillSlot slot term part = part := by
  cases term with
  | none => rfl
  | some term => exact Text.replaceChars_of_not_infix h term.toList

theorem fillSlot_self {slot : String} (h : slot ≠ "") (term : String) :
    fillSlot slot (some term) slot.toList = term.toList :=
  Text.replaceChars_self (mt String.toList_eq_nil_iff.mp h) term.toList

theorem fillSlots_of_plain {part : List Char} (h : '\x7b' ∉ part)
    (label relation : Option String) : fillSlots label relation part = part := by
  have hkept (slot : String) (hslot : slot ∈ [Template.labelSlot, Template.relationSlot])
      (term : Option String) : fillSlot slot term part = part :=
    fillSlot_of_not_within (fun hwithin ↦ h (hwithin.subset (brace_mem_slots slot hslot))) term
  rw [fillSlots, Function.comp_apply, hkept _ (by decide), hkept _ (by decide)]

/-- What stands in the slot of a label: the label, with the relation in the place of every relation
slot that it has itself. -/
def labelText (label : String) (relation : Option String) : String :=
  .ofList (fillSlot Template.relationSlot relation label.toList)

theorem fillSlots_labelSlot (label : String) (relation : Option String) :
    .ofList (fillSlots (some label) relation Template.labelSlot.toList) =
      labelText label relation := by
  rw [fillSlots, Function.comp_apply, fillSlot_self (by decide), labelText]

theorem fillSlots_relationSlot (label : Option String) (relation : String) :
    .ofList (fillSlots label (some relation) Template.relationSlot.toList) = relation := by
  have hother : fillSlot Template.labelSlot label Template.relationSlot.toList =
      Template.relationSlot.toList := fillSlot_of_not_within (by decide) label
  rw [fillSlots, Function.comp_apply, hother, fillSlot_self (by decide), String.ofList_toList]

theorem labelText_of_not_within {label : String}
    (h : ¬ Template.relationSlot.toList <:+: label.toList) (relation : Option String) :
    labelText label relation = label := by
  rw [labelText, fillSlot_of_not_within h, String.ofList_toList]

def slotTexts (labels : List String) (relation : Option String) : List String :=
  labels.map (labelText · relation) ++ relation.toList

theorem labelText_mem_slotTexts {name : String} {labels : List String} (h : name ∈ labels)
    (relation : Option String) : labelText name relation ∈ slotTexts labels relation :=
  List.mem_append_left _ (List.mem_map_of_mem h)

theorem mem_slotTexts {name : String} (h : name ∈ relation) (labels : List String) :
    name ∈ slotTexts labels relation :=
  List.mem_append_right _ (Option.mem_toList.mpr h)

theorem Template.names_render {template : Template} {name : String}
    (h : Names template.text name) (label relation : Option String) :
    Names (template.render label relation) (.ofList (fillSlots label relation name.toList)) := by
  have hnames := (partwise_fillSlots label relation).names h
  rwa [← template.toList_render, String.ofList_toList] at hnames

theorem Template.tokens_render (template : Template) (label relation : Option String) :
    Text.tokens (template.render label relation) =
      (Text.pieces Text.nameEnds.contains template.text.toList).flatMap fun part ↦
        Text.tokens (.ofList (fillSlots label relation part)) := by
  rw [← (partwise_fillSlots label relation).tokens_eq, ← template.toList_render,
    String.ofList_toList]

theorem Template.names_slotTexts {template : Template}
    (hlabel : ∀ term ∈ label, Names template.text labelSlot)
    (hrelation : ∀ term ∈ relation, Names template.text relationSlot) :
    ∀ text ∈ slotTexts label.toList relation, Names (template.render label relation) text := by
  intro text htext
  obtain htext | htext := List.mem_append.mp htext
  · obtain ⟨term, hterm, rfl⟩ := List.mem_map.mp htext
    obtain rfl := Option.mem_toList.mp hterm
    have hnames := names_render (hlabel term rfl) (some term) relation
    rwa [fillSlots_labelSlot] at hnames
  · obtain rfl := Option.mem_toList.mp htext
    have hnames := names_render (hrelation text rfl) label (some text)
    rwa [fillSlots_relationSlot] at hnames

theorem mem_of_mem_slotBindings {needed : Bool} {terms : List String} {slot : Option String}
    (h : slot ∈ slotBindings needed terms) : ∀ term ∈ slot, needed = true ∧ term ∈ terms := by
  rintro term rfl
  cases needed with
  | false => cases List.mem_singleton.mp h
  | true =>
    obtain ⟨other, hother, hterm⟩ := List.mem_map.mp h
    obtain rfl := Option.some.inj hterm
    exact ⟨rfl, hother⟩

end Slots

def Intent.patterns (intent : Intent) : List Template :=
  intent.templates.flatMap fun template ↦
    template :: verbSwaps.filterMap fun swap ↦
      (Text.afterStart? (swap.1 ++ " ") template.text).map fun rest ↦
        { template with text := swap.2 ++ " " ++ rest }

theorem patterns_spec (intent : Intent) :
    ∀ pattern ∈ intent.patterns,
      (pattern.needsLabel = true → Names pattern.text Template.labelSlot) ∧
      (pattern.needsRelation = true → Names pattern.text Template.relationSlot) ∧
      ∀ part ∈ Text.pieces Text.nameEnds.contains pattern.text.toList,
        part = Template.labelSlot.toList ∧ pattern.needsLabel = true ∨
          part = Template.relationSlot.toList ∧ pattern.needsRelation = true ∨ '\x7b' ∉ part := by
  cases intent <;> decide +kernel

variable {schema : Schema}

/-- The question is what a pattern of the intent makes of schema terms, and the sketch of the answer
lists these terms. -/
structure Draft.FilledFrom (schema : Schema) (draft : Draft) (pattern : Template)
    (label relation : Option String) : Prop where
  pattern_mem : pattern ∈ draft.intent.patterns
  label_mem : label ∈ slotBindings pattern.needsLabel schema.entities
  relation_mem : relation ∈ slotBindings pattern.needsRelation schema.relations
  templateId : draft.templateId = pattern.id
  expected : draft.expected = expectedAnswer draft.intent label relation
  question : draft.question = pattern.render label relation

theorem expectedAnswer_eq (intent : Intent) (label relation : Option String) :
    expectedAnswer intent label relation =
      intent.name ++ ": " ++ " ".intercalate (label.toList ++ relation.toList) := by
  cases label <;> cases relation <;> rfl

theorem exists_pattern_of_paraphrase? {intent : Intent} {template : Template}
    (htemplate : template ∈ intent.templates) {label relation : Option String} {question : String}
    (h : paraphrase? (template.render label relation) = some question) :
    ∃ pattern ∈ intent.patterns, pattern.id = template.id ∧
      pattern.needsLabel = template.needsLabel ∧
      pattern.needsRelation = template.needsRelation ∧
      question = pattern.render label relation := by
  obtain ⟨verb, hverb, hbegins⟩ := templates_begin intent template htemplate
  obtain ⟨-, hslot, hspace, -⟩ := verbs_plain intent verb hverb
  obtain ⟨swap, hswap, rest, hold, hnew⟩ := exists_rest_of_paraphrase? h
  have hfirst := Template.begins_render hbegins hslot label relation
  obtain rfl : verb = swap.1 :=
    hfirst.unique ⟨rest, by simp [hold]⟩ hspace (swaps_plain swap hswap)
  obtain ⟨-, hslot', -, -⟩ := verbs_plain intent swap.2 (mem_verbs_of_swap intent swap hswap hverb)
  obtain ⟨body, hbody⟩ := hbegins
  have hafter : Text.afterStart? (swap.1 ++ " ") template.text = some (.ofList body) := by
    have hstart : (swap.1 ++ " ").toList = swap.1.toList ++ [' '] := String.toList_append
    rw [Text.afterStart?, hstart, ← hbody, if_pos (by simp), ← String.length_toList, hstart,
      List.drop_left]
  have hbody : template.text.toList = swap.1.toList ++ ' ' :: body := by simp [← hbody]
  have htext : (swap.2 ++ " " ++ .ofList body).toList = swap.2.toList ++ ' ' :: body := by
    simp only [String.toList_append, String.toList_ofList, List.append_assoc]
    rfl
  refine ⟨{ template with text := swap.2 ++ " " ++ .ofList body }, ?_, rfl,
    contains_slot_eq (by decide) hslot hslot' hbody htext,
    contains_slot_eq (by decide) hslot hslot' hbody htext, ?_⟩
  · refine List.mem_flatMap_of_mem htemplate (List.mem_cons_of_mem _ ?_)
    exact List.mem_filterMap.mpr ⟨swap, hswap, by rw [hafter, Option.map_some]⟩
  · -- The slots are behind the first word, whichever it is.
    have hrest : rest = fillSlots label relation body := by
      have hrendered := template.toList_render label relation
      rw [hbody, partwise_fillSlots label relation ' ' (by decide), fillSlots_of_plain hslot,
        hold] at hrendered
      exact (List.cons.inj (List.append_cancel_left hrendered)).2
    refine String.toList_inj.mp ?_
    rw [hnew, Template.toList_render, htext, partwise_fillSlots label relation ' ' (by decide),
      fillSlots_of_plain hslot', hrest]

theorem Draft.Rendered.exists_pattern {draft : Draft} (h : draft.Rendered schema) :
    ∃ pattern label relation, draft.FilledFrom schema pattern label relation := by
  obtain ⟨template, htemplate, label, hlabel, relation, hrelation, hid, hexpected, hquestion⟩ := h
  split at hquestion
  · obtain ⟨pattern, hpattern, hid', hlabel', hrelation', hquestion⟩ :=
      exists_pattern_of_paraphrase? htemplate hquestion
    exact ⟨pattern, label, relation, hpattern, hlabel' ▸ hlabel, hrelation' ▸ hrelation,
      hid.trans hid'.symm, hexpected, hquestion⟩
  · exact ⟨template, label, relation, List.mem_flatMap_of_mem htemplate List.mem_cons_self, hlabel,
      hrelation, hid, hexpected, hquestion⟩

theorem Draft.FilledFrom.names {draft : Draft} {pattern : Template} {label relation : Option String}
    (h : draft.FilledFrom schema pattern label relation) :
    ∀ text ∈ slotTexts label.toList relation, Names draft.question text := by
  obtain ⟨hlabel, hrelation, -⟩ := patterns_spec draft.intent pattern h.pattern_mem
  rw [h.question]
  exact Template.names_slotTexts
    (fun term hterm ↦ hlabel (mem_of_mem_slotBindings h.label_mem term hterm).1)
    fun term hterm ↦ hrelation (mem_of_mem_slotBindings h.relation_mem term hterm).1

end WorkflowSearch
