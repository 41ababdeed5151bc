import WorkflowSearch.Config.Validity
import WorkflowSearch.Proofs.Synthesis.Patterns
import WorkflowSearch.Proofs.Text.Phrases

namespace WorkflowSearch

open Text (IsWord)

variable {schema : Schema} {draft : Draft}

/-- What a question was made of: the words beside its slots, and the terms in them. -/
structure Filling where
  wording : List String
  labels : List String
  relation : Option String

namespace Filling

def ofPattern (pattern : Template) (label relation : Option String) : Filling where
  wording := Text.tokens (pattern.render (some "") (some ""))
  labels := label.toList
  relation := relation

def ofHardNegative (subject fabricated object : String) : Filling where
  wording := Text.tokens (hardNegativeQuestion "" fabricated "")
  labels := [subject, object]
  relation := none

def Mentions (filling : Filling) (name : String) : Prop :=
  Text.lowercase name ∈ filling.wording ∨
    ∃ text ∈ slotTexts filling.labels filling.relation, Text.lowercase name ∈ Text.tokens text

end Filling

inductive Draft.FilledWith (schema : Schema) (draft : Draft) : Filling → Prop
  | pattern {pattern : Template} {label relation : Option String} :
      draft.FilledFrom schema pattern label relation →
      draft.FilledWith schema (.ofPattern pattern label relation)
  | hardNegative {subject fabricated object : String} :
      draft.hardNegative = true →
      subject ∈ schema.entities → object ∈ schema.entities → fabricated ∈ usableFabricated schema →
      draft.question = hardNegativeQuestion subject fabricated object →
      draft.FilledWith schema (.ofHardNegative subject fabricated object)

section Words

theorem Draft.FilledFrom.mem_tokens_iff {pattern : Template} {label relation : Option String}
    (h : draft.FilledFrom schema pattern label relation) (word : String) :
    word ∈ Text.tokens draft.question ↔
      word ∈ Text.tokens (pattern.render (some "") (some "")) ∨
        ∃ text ∈ slotTexts label.toList relation, word ∈ Text.tokens text := by
  obtain ⟨-, -, hparts⟩ := patterns_spec draft.intent pattern h.pattern_mem
  have hnone : Text.tokens "" = [] := rfl
  constructor
  · intro hword
    rw [h.question, pattern.tokens_render] at hword
    obtain ⟨part, hpart, hword⟩ := List.mem_flatMap.mp hword
    obtain ⟨rfl, hneeds⟩ | ⟨rfl, hneeds⟩ | hplain := hparts part hpart
    · have hlabel := h.label_mem
      rw [hneeds] at hlabel
      obtain ⟨term, -, rfl⟩ := List.mem_map.mp hlabel
      rw [fillSlots_labelSlot] at hword
      exact .inr ⟨_, labelText_mem_slotTexts List.mem_cons_self relation, hword⟩
    · have hrelation := h.relation_mem
      rw [hneeds] at hrelation
      obtain ⟨term, -, rfl⟩ := List.mem_map.mp hrelation
      rw [fillSlots_relationSlot] at hword
      exact .inr ⟨term, mem_slotTexts rfl _, hword⟩
    · rw [fillSlots_of_plain hplain] at hword
      rw [pattern.tokens_render]
      exact .inl (List.mem_flatMap.mpr ⟨part, hpart, by rwa [fillSlots_of_plain hplain]⟩)
  · rintro (hword | ⟨text, htext, hword⟩)
    · rw [pattern.tokens_render] at hword
      obtain ⟨part, hpart, hword⟩ := List.mem_flatMap.mp hword
      obtain ⟨rfl, -⟩ | ⟨rfl, -⟩ | hplain := hparts part hpart
      · rw [fillSlots_labelSlot, labelText_of_not_within (by decide), hnone] at hword
        cases hword
      · rw [fillSlots_relationSlot, hnone] at hword
        cases hword
      · rw [fillSlots_of_plain hplain] at hword
        rw [h.question, pattern.tokens_render]
        exact List.mem_flatMap.mpr ⟨part, hpart, by rwa [fillSlots_of_plain hplain]⟩
    · exact (h.names text htext).tokens_subset hword

theorem tokens_hardNegativeQuestion (subject fabricated object : String) :
    Text.tokens (hardNegativeQuestion subject fabricated object) =
      ["which"] ++ Text.tokens subject ++ Text.tokens fabricated ++ ["a"] ++ Text.tokens object ++
        ["and", "through", "how", "many", "hops"] := by
  have hfirst : "Which " = "Which" ++ " " := by decide
  have hmiddle : " a " = " " ++ "a" ++ " " := by decide
  have hlast : ", and through how many hops?" = ", " ++ "and through how many hops?" := by decide
  have hwhich : Text.tokens "Which" = ["which"] := by decide
  have ha : Text.tokens "a" = ["a"] := by decide
  have hhops : Text.tokens "and through how many hops?" =
      ["and", "through", "how", "many", "hops"] := by decide
  rw [hardNegativeQuestion, hlast, ← String.append_assoc,
    Text.tokens_append (by decide) (by decide), hmiddle, ← String.append_assoc,
    ← String.append_assoc, hfirst]
  simp only [Text.tokens_append_space, hwhich, ha, hhops]

theorem Draft.FilledWith.mem_tokens_iff {filling : Filling} (h : draft.FilledWith schema filling)
    (name : String) :
    Text.lowercase name ∈ Text.tokens draft.question ↔ filling.Mentions name := by
  cases h with
  | pattern hfilled => exact hfilled.mem_tokens_iff _
  | @hardNegative subject fabricated object _ _ _ _ hquestion =>
    have hnone : Text.tokens "" = [] := rfl
    have hplain (label : String) : labelText label none = label := String.ofList_toList
    have htexts : slotTexts [subject, object] none = [subject, object] := by
      simp [slotTexts, hplain]
    dsimp only [Filling.Mentions, Filling.ofHardNegative]
    rw [hquestion, tokens_hardNegativeQuestion, tokens_hardNegativeQuestion, htexts, hnone]
    simp only [List.append_nil, List.mem_append, List.exists_mem_cons_iff, List.not_mem_nil,
      false_and, exists_false, or_false]
    simp only [or_assoc, or_left_comm, or_comm]

end Words

theorem Draft.Negative.exists_filling {intents : List Intent} (h : draft.Negative schema intents) :
    ∃ subject ∈ schema.entities, ∃ fabricated object,
      draft.FilledWith schema (.ofHardNegative subject fabricated object) := by
  obtain ⟨subject, hsubject, object, hobject, fabricated, hfabricated, hlacked, hquestion⟩ :=
    h.unanswerable.question
  exact ⟨subject, hsubject, fabricated, object, .hardNegative h.hardNegative hsubject hobject
    (mem_usableFabricated.mpr ⟨hfabricated, hlacked⟩) hquestion⟩

section Terms

variable {filling : Filling}

theorem Draft.FilledWith.known (h : draft.FilledWith schema filling) :
    (∀ label ∈ filling.labels, label ∈ schema.entities) ∧
      ∀ relation ∈ filling.relation, relation ∈ schema.relations := by
  cases h with
  | @pattern _ label relation hfilled =>
    have hlabel : ∀ name ∈ label.toList, name ∈ schema.entities := fun name hname ↦
      (mem_of_mem_slotBindings hfilled.label_mem name (Option.mem_toList.mp hname)).2
    exact ⟨hlabel, fun name hname ↦ (mem_of_mem_slotBindings hfilled.relation_mem name hname).2⟩
  | @hardNegative subject _ object _ hsubject hobject =>
    have hlabels : ∀ name ∈ [subject, object], name ∈ schema.entities := by
      simp [hsubject, hobject]
    exact ⟨hlabels, fun name hname ↦ nomatch hname⟩

theorem Filling.mentions_of_mem {name : String} (hname : IsWord name)
    (h : name ∈ filling.labels ∨ name ∈ filling.relation) : filling.Mentions name := by
  have hself : Text.lowercase name ∈ Text.tokens name := by
    rw [hname.tokens_eq]
    exact List.mem_cons_self
  obtain hlabel | hrelation := h
  · refine .inr ⟨_, labelText_mem_slotTexts hlabel filling.relation, ?_⟩
    rwa [labelText_of_not_within (slot_not_within (by decide) hname)]
  · exact .inr ⟨name, mem_slotTexts hrelation filling.labels, hself⟩

/-- The small letters of the name are one word, which no wording has, and which no other term brings
into a question. -/
structure Schema.Apart (schema : Schema) (intents : List Intent) (name : String) : Prop where
  isWord : IsWord name
  not_pattern : ∀ intent ∈ intents, ∀ pattern ∈ intent.patterns,
    Text.lowercase name ∉ Text.tokens (pattern.render (some "") (some ""))
  not_hardNegative : ∀ fabricated ∈ usableFabricated schema,
    Text.lowercase name ∉ Text.tokens (hardNegativeQuestion "" fabricated "")
  label_eq : ∀ label ∈ schema.entities, ∀ relation ∈ none :: schema.relations.map some,
    Text.lowercase name ∈ Text.tokens (labelText label relation) → label = name
  relation_eq : ∀ relation ∈ schema.relations,
    Text.lowercase name ∈ Text.tokens relation → relation = name
  once : name ∉ schema.entities ∨ name ∉ schema.relations

theorem Schema.Apart.mentions_iff {intents : List Intent} {name : String}
    (h : schema.Apart intents name) (hfilled : draft.FilledWith schema filling)
    (hintent : draft.intent ∈ intents) :
    filling.Mentions name ↔ name ∈ filling.labels ∨ name ∈ filling.relation := by
  obtain ⟨hlabels, hrelation⟩ := hfilled.known
  refine ⟨?_, Filling.mentions_of_mem h.isWord⟩
  rintro (hword | ⟨text, htext, hword⟩)
  · cases hfilled with
    | pattern hpattern =>
      exact absurd hword (h.not_pattern draft.intent hintent _ hpattern.pattern_mem)
    | hardNegative _ _ _ hfabricated => exact absurd hword (h.not_hardNegative _ hfabricated)
  · obtain htext | htext := List.mem_append.mp htext
    · obtain ⟨label, hlabel, rfl⟩ := List.mem_map.mp htext
      have hbound : filling.relation ∈ none :: schema.relations.map some := by
        cases hslot : filling.relation with
        | none => exact List.mem_cons_self
        | some relation =>
          exact List.mem_cons_of_mem _ (List.mem_map_of_mem (hrelation relation hslot))
      exact .inl (h.label_eq label (hlabels label hlabel) _ hbound hword ▸ hlabel)
    · have htext := Option.mem_toList.mp htext
      exact .inr (h.relation_eq text (hrelation text htext) hword ▸ htext)

end Terms

section Report

variable {α σ : Type} [Scalar α] [RandomSource σ] {task : String} {config : DatasetConfig α}
  {source : σ} {dataset : Dataset α}

theorem exists_filling (h : synthesize task schema config source = .ok dataset) {case : Case}
    (hcase : case ∈ dataset.cases) : ∃ filling, case.draft.FilledWith schema filling := by
  obtain hpositive | hnegative := draft_of_mem_cases h hcase
  · obtain ⟨pattern, label, relation, hfilled⟩ := hpositive.rendered.exists_pattern
    exact ⟨_, .pattern hfilled⟩
  · obtain ⟨subject, -, fabricated, object, hfilled⟩ := hnegative.exists_filling
    exact ⟨_, hfilled⟩

theorem intent_mem_of_mem_cases (h : synthesize task schema config source = .ok dataset)
    {case : Case} (hcase : case ∈ dataset.cases) : case.intent ∈ inferIntents task schema := by
  obtain hpositive | hnegative := draft_of_mem_cases h hcase
  · exact hpositive.intent_mem
  · exact hnegative.intent_mem

theorem mem_mentionedTerms {cases : List Case} {terms : List String} {name : String} :
    name ∈ mentionedTerms cases terms ↔
      name ∈ terms ∧ ∃ case ∈ cases, Text.lowercase name ∈ Text.tokens case.draft.question := by
  simp [mentionedTerms, Case.draft]

theorem space_not_mem_of_mem_mentionedTerms {cases : List Case} {terms : List String} :
    ∀ name ∈ mentionedTerms cases terms, ' ' ∉ name.toList := by
  intro name hname hspace
  obtain ⟨-, case, -, hword⟩ := mem_mentionedTerms.mp hname
  exact Text.space_not_mem_of_mem_tokens hword (Text.space_mem_lowercase_iff.mpr hspace)

theorem mem_mentionedTerms_iff (h : synthesize task schema config source = .ok dataset)
    (terms : List String) (name : String) :
    name ∈ mentionedTerms dataset.cases terms ↔
      name ∈ terms ∧ ∃ case ∈ dataset.cases, ∃ filling,
        case.draft.FilledWith schema filling ∧ filling.Mentions name := by
  rw [mem_mentionedTerms]
  refine and_congr_right fun _ ↦ exists_congr fun case ↦ and_congr_right fun hcase ↦ ?_
  constructor
  · intro hword
    obtain ⟨filling, hfilled⟩ := exists_filling h hcase
    exact ⟨filling, hfilled, (hfilled.mem_tokens_iff name).mp hword⟩
  · rintro ⟨filling, hfilled, hmentions⟩
    exact (hfilled.mem_tokens_iff name).mpr hmentions

theorem mem_mentionedTerms_of_isWord (h : synthesize task schema config source = .ok dataset)
    {case : Case} (hcase : case ∈ dataset.cases) {filling : Filling}
    (hfilled : case.draft.FilledWith schema filling) {name : String} (hname : IsWord name) :
    (name ∈ filling.labels → name ∈ mentionedTerms dataset.cases schema.entities) ∧
      (name ∈ filling.relation → name ∈ mentionedTerms dataset.cases schema.relations) := by
  obtain ⟨hlabels, hrelation⟩ := hfilled.known
  simp only [mem_mentionedTerms_iff h]
  constructor
  · intro hmem
    exact ⟨hlabels name hmem, case, hcase, filling, hfilled,
      Filling.mentions_of_mem hname (.inl hmem)⟩
  · intro hmem
    exact ⟨hrelation name hmem, case, hcase, filling, hfilled,
      Filling.mentions_of_mem hname (.inr hmem)⟩

theorem Schema.Apart.mem_mentionedTerms_iff {name : String}
    (hapart : schema.Apart (inferIntents task schema) name)
    (h : synthesize task schema config source = .ok dataset) (terms : List String) :
    name ∈ mentionedTerms dataset.cases terms ↔
      name ∈ terms ∧ ∃ case ∈ dataset.cases, ∃ filling, case.draft.FilledWith schema filling ∧
        (name ∈ filling.labels ∨ name ∈ filling.relation) := by
  rw [WorkflowSearch.mem_mentionedTerms_iff h]
  refine and_congr_right fun _ ↦ exists_congr fun case ↦ and_congr_right fun hcase ↦ ?_
  refine exists_congr fun filling ↦ and_congr_right fun hfilled ↦ ?_
  exact hapart.mentions_iff hfilled (intent_mem_of_mem_cases h hcase)

theorem sampled_eq (h : synthesize task schema config source = .ok dataset) :
    dataset.report.sampledLabels = mentionedTerms dataset.cases schema.entities ∧
      dataset.report.sampledRelations = mentionedTerms dataset.cases schema.relations := by
  obtain ⟨drafts, pool, -, -, -, -, -, hreport⟩ := exists_drafts_of_synthesize h
  rw [hreport]
  exact ⟨rfl, rfl⟩

/-- The report lists a schema term exactly when its small letters are a word of some question, in
the wording or in what stands in a slot. So a term that is one word is listed if some question was
made with it, and if it stands apart, only then. A term with a space is never listed. -/
theorem synthesize_sampled (h : synthesize task schema config source = .ok dataset) :
    let report := dataset.report
    (∀ case ∈ dataset.cases, ∃ filling, case.draft.FilledWith schema filling) ∧
      (∀ name, name ∈ report.sampledLabels ↔ name ∈ schema.entities ∧
        ∃ case ∈ dataset.cases, ∃ filling, case.draft.FilledWith schema filling ∧
          filling.Mentions name) ∧
      (∀ name, name ∈ report.sampledRelations ↔ name ∈ schema.relations ∧
        ∃ case ∈ dataset.cases, ∃ filling, case.draft.FilledWith schema filling ∧
          filling.Mentions name) ∧
      (∀ name, IsWord name → ∀ case ∈ dataset.cases, ∀ filling,
        case.draft.FilledWith schema filling →
          (name ∈ filling.labels → name ∈ report.sampledLabels) ∧
          (name ∈ filling.relation → name ∈ report.sampledRelations)) ∧
      (∀ name, schema.Apart (inferIntents task schema) name →
        (name ∈ report.sampledLabels ↔
          ∃ case ∈ dataset.cases, ∃ filling, case.draft.FilledWith schema filling ∧
            name ∈ filling.labels) ∧
        (name ∈ report.sampledRelations ↔
          ∃ case ∈ dataset.cases, ∃ filling, case.draft.FilledWith schema filling ∧
            name ∈ filling.relation)) ∧
      ∀ name ∈ report.sampledLabels ++ report.sampledRelations, ' ' ∉ name.toList := by
  intro report
  obtain ⟨hlabels, hrelations⟩ :
      report.sampledLabels = mentionedTerms dataset.cases schema.entities ∧
        report.sampledRelations = mentionedTerms dataset.cases schema.relations := sampled_eq h
  rw [hlabels, hrelations]
  refine ⟨fun case ↦ exists_filling h, mem_mentionedTerms_iff h _, mem_mentionedTerms_iff h _,
    fun name hname case hcase filling hfilled ↦ mem_mentionedTerms_of_isWord h hcase hfilled hname,
    fun name hapart ↦ ⟨⟨fun hmem ↦ ?_, ?_⟩, ⟨fun hmem ↦ ?_, ?_⟩⟩, ?_⟩
  · obtain ⟨hname, case, hcase, filling, hfilled, hlabel | hrelation⟩ :=
      (hapart.mem_mentionedTerms_iff h _).mp hmem
    · exact ⟨case, hcase, filling, hfilled, hlabel⟩
    · exact absurd (hfilled.known.2 name hrelation) (hapart.once.resolve_left (not_not.mpr hname))
  · rintro ⟨case, hcase, filling, hfilled, hlabel⟩
    exact (mem_mentionedTerms_of_isWord h hcase hfilled hapart.isWord).1 hlabel
  · obtain ⟨hname, case, hcase, filling, hfilled, hlabel | hrelation⟩ :=
      (hapart.mem_mentionedTerms_iff h _).mp hmem
    · exact absurd (hfilled.known.1 name hlabel) (hapart.once.resolve_right (not_not.mpr hname))
    · exact ⟨case, hcase, filling, hfilled, hrelation⟩
  · rintro ⟨case, hcase, filling, hfilled, hrelation⟩
    exact (mem_mentionedTerms_of_isWord h hcase hfilled hapart.isWord).2 hrelation
  · rw [List.forall_mem_append]
    exact ⟨space_not_mem_of_mem_mentionedTerms, space_not_mem_of_mem_mentionedTerms⟩

end Report

theorem account_owns_apart :
    ∀ name ∈ ["Account", "OWNS"], Schema.Apart ⟨["Account"], ["OWNS"]⟩ [.query] name := by
  have hwords : ∀ name ∈ ["Account", "OWNS"],
      name ≠ "" ∧ name.toList.all Text.isWordChar = true := by
    decide
  have hsmall : ∀ name ∈ ["Account", "OWNS"], Text.lowercase name ∈ ["account", "owns"] := by
    decide
  have hpatterns : ∀ intent ∈ [Intent.query], ∀ pattern ∈ intent.patterns,
      ∀ word ∈ Text.tokens (pattern.render (some "") (some "")), word ∉ ["account", "owns"] := by
    decide +kernel
  have hnegatives : ∀ fabricated ∈ usableFabricated ⟨["Account"], ["OWNS"]⟩,
      ∀ word ∈ Text.tokens (hardNegativeQuestion "" fabricated ""),
        word ∉ ["account", "owns"] := by
    decide +kernel
  have hlabels : ∀ name ∈ ["Account", "OWNS"], ∀ label ∈ ["Account"],
      ∀ relation ∈ [none, some "OWNS"],
        Text.lowercase name ∈ Text.tokens (labelText label relation) → label = name := by
    decide +kernel
  have hrelations : ∀ name ∈ ["Account", "OWNS"], ∀ relation ∈ ["OWNS"],
      Text.lowercase name ∈ Text.tokens relation → relation = name := by
    decide +kernel
  have honce : ∀ name ∈ ["Account", "OWNS"], name ∉ ["Account"] ∨ name ∉ ["OWNS"] := by
    decide
  intro name hname
  obtain ⟨hsome, hword⟩ := hwords name hname
  exact
    { isWord := ⟨hsome, List.all_eq_true.mp hword⟩
      not_pattern := fun intent hintent pattern hpattern hmem ↦
        hpatterns intent hintent pattern hpattern _ hmem (hsmall name hname)
      not_hardNegative := fun fabricated hfabricated hmem ↦
        hnegatives fabricated hfabricated _ hmem (hsmall name hname)
      label_eq := hlabels name hname
      relation_eq := hrelations name hname
      once := honce name hname }

/-- In queries, names that are plain words are listed as they are asked about. -/
theorem threeCases_sampled :
    let schema : Schema := ⟨["Account"], ["OWNS"]⟩
    let config : DatasetConfig ℚ := { DatasetConfig.default with targetSize := 3, minSize := 3 }
    ∃ dataset, synthesize "Find accounts" schema config (ChaCha.ofSeed 1) = .ok dataset ∧
      "Account" ∈ dataset.report.sampledLabels ∧
      (∃ case ∈ dataset.cases, ∃ filling, case.draft.FilledWith schema filling ∧
        "Account" ∈ filling.labels) ∧
      ("OWNS" ∈ dataset.report.sampledRelations ↔
        ∃ case ∈ dataset.cases, ∃ filling, case.draft.FilledWith schema filling ∧
          "OWNS" ∈ filling.relation) := by
  intro schema config
  obtain ⟨dataset, hdataset, hhard, -⟩ := exists_threeCases
  obtain ⟨-, -, -, -, -, -, -, hcount, -⟩ := synthesize_integrity hdataset
  have hintents : inferIntents "Find accounts" schema = [.query] := by decide
  obtain ⟨-, -, -, -, hexact, -⟩ := synthesize_sampled hdataset
  rw [hintents] at hexact
  have hfilled : ∃ case ∈ dataset.cases, ∃ filling, case.draft.FilledWith schema filling ∧
      "Account" ∈ filling.labels := by
    have hsome : 0 < dataset.cases.countP (·.origin.hardNegative) := by
      rw [← hcount, hhard]
      decide
    obtain ⟨case, hcase, hhard⟩ := List.countP_pos_iff.mp hsome
    obtain hpositive | hnegative := draft_of_mem_cases hdataset hcase
    · exact absurd (hpositive.hardNegative.symm.trans hhard) (by decide)
    · obtain ⟨subject, hsubject, fabricated, object, hfilled⟩ := hnegative.exists_filling
      obtain rfl := List.mem_singleton.mp hsubject
      exact ⟨case, hcase, _, hfilled, List.mem_cons_self⟩
  exact ⟨dataset, hdataset, (hexact "Account" (account_owns_apart _ (by decide))).1.mpr hfilled,
    hfilled, (hexact "OWNS" (account_owns_apart _ (by decide))).2⟩

/-- A label of two words is never listed, whatever is asked about it. -/
theorem bankAccount_unlisted :
    let schema : Schema := ⟨["Bank Account"], ["OWNS"]⟩
    let config : DatasetConfig ℚ := { DatasetConfig.default with targetSize := 3, minSize := 3 }
    config.validate = .ok () ∧
      ∃ dataset, synthesize "Find accounts" schema config (ChaCha.ofSeed 1) = .ok dataset ∧
        (∃ case ∈ dataset.cases,
          case.question = "Which Bank Account records match a path over OWNS?" ∧
            ∃ filling, case.draft.FilledWith schema filling ∧ "Bank Account" ∈ filling.labels) ∧
        "Bank Account" ∉ dataset.report.sampledLabels := by
  intro schema config
  let pattern : Template :=
    ⟨"query-filter", "Which \x7blabel\x7d records match a path over \x7brelation\x7d?"⟩
  let draft : Draft :=
    { question := "Which Bank Account records match a path over OWNS?"
      expected := "query: Bank Account OWNS"
      intent := .query
      templateId := "query-filter"
      paraphrased := false
      hardNegative := false }
  have hfirst : (synthesize "Find accounts" schema config (ChaCha.ofSeed 1)).toOption.map
      (fun dataset ↦ dataset.cases.head?.map Case.draft) = some (some draft) := by
    decide +kernel
  obtain ⟨dataset, hdataset, hfirst⟩ := exists_eq_ok_of_map hfirst
  obtain ⟨case, hcase, hdraft⟩ := Option.map_eq_some_iff.mp hfirst
  have hfilled : case.draft.FilledWith schema (.ofPattern pattern (some "Bank Account")
      (some "OWNS")) := by
    rw [hdraft]
    exact .pattern
      { pattern_mem := List.mem_flatMap_of_mem (by decide) List.mem_cons_self
        label_mem := by decide
        relation_mem := by decide
        templateId := rfl
        expected := by decide
        question := by decide +kernel }
  refine ⟨eq_ok_of_isOk (by decide +kernel), dataset, hdataset, ⟨case, List.mem_of_head? hcase,
    congrArg Draft.question hdraft, _, hfilled, List.mem_singleton_self _⟩, ?_⟩
  rw [(sampled_eq hdataset).1]
  exact fun hlisted ↦ space_not_mem_of_mem_mentionedTerms _ hlisted (by decide)

end WorkflowSearch
