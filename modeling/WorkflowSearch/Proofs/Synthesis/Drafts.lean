import Mathlib.Data.List.Nodup
import Mathlib.Logic.Relation
import WorkflowSearch.Proofs.Random.Choices
import WorkflowSearch.Proofs.Results
import WorkflowSearch.Synthesis.Basic

namespace WorkflowSearch

variable {σ : Type}

namespace Draft

def key (draft : Draft) : String :=
  normalizedQuestion draft.question

/-- The question is what a template of the intent makes of schema terms, or a paraphrase of that. -/
def Rendered (schema : Schema) (draft : Draft) : Prop :=
  ∃ template ∈ draft.intent.templates,
    ∃ label ∈ slotBindings template.needsLabel schema.entities,
      ∃ relation ∈ slotBindings template.needsRelation schema.relations,
        draft.templateId = template.id ∧
        draft.expected = expectedAnswer draft.intent label relation ∧
        if draft.paraphrased then paraphrase? (template.render label relation) = some draft.question
        else draft.question = template.render label relation

/-- The question names two labels of the schema and a relation that it lacks. -/
structure Unanswerable (schema : Schema) (draft : Draft) : Prop where
  templateId : draft.templateId = hardNegativeTemplate
  paraphrased : draft.paraphrased = false
  expected : draft.expected = "UNKNOWN"
  question : ∃ subject ∈ schema.entities, ∃ object ∈ schema.entities,
    ∃ relation ∈ fabricatedRelations,
      (∀ known ∈ schema.relations, Text.lowerAscii known ≠ Text.lowerAscii relation) ∧
        draft.question = hardNegativeQuestion subject relation object

structure Positive (schema : Schema) (intents : List Intent) (draft : Draft) : Prop where
  hardNegative : draft.hardNegative = false
  intent_mem : draft.intent ∈ intents
  rendered : draft.Rendered schema

structure Drawn (schema : Schema) (intents : List Intent) (paraphrase : Bool) (draft : Draft) :
    Prop extends draft.Positive schema intents where
  wanted : draft.paraphrased = true → paraphrase = true

structure Negative (schema : Schema) (intents : List Intent) (draft : Draft) : Prop where
  hardNegative : draft.hardNegative = true
  intent_mem : draft.intent ∈ intents
  unanswerable : draft.Unanswerable schema

end Draft

namespace DraftPool

variable {kind : Draft → Prop} {pool pool' : DraftPool}

/-- Drafts of a kind are added one after the other. -/
def Grows (kind : Draft → Prop) : DraftPool → DraftPool → Prop :=
  Relation.ReflTransGen fun pool pool' ↦ ∃ draft, kind draft ∧ pool' = pool.add draft

theorem grows_add {draft : Draft} (h : kind draft) (pool : DraftPool) :
    Grows kind pool (pool.add draft) :=
  .single ⟨draft, h, rfl⟩

@[simp]
theorem drafts_empty : empty.drafts = [] :=
  rfl

@[simp]
theorem drafts_nextPhase (pool : DraftPool) : pool.nextPhase.drafts = [] :=
  rfl

@[simp]
theorem seen_nextPhase (pool : DraftPool) : pool.nextPhase.seen = pool.seen :=
  rfl

theorem add_eq (pool : DraftPool) (draft : Draft) :
    (pool.add draft).seen = pool.seen.insert draft.key ∧
      (pool.add draft).drafts =
        if pool.seen.contains draft.key then pool.drafts else pool.drafts ++ [draft] := by
  obtain ⟨admitted, seen, rendered, duplicates⟩ := pool
  have hinsert : seen.containsThenInsert (normalizedQuestion draft.question) =
      (seen.contains draft.key, seen.insert draft.key) :=
    Prod.ext Std.TreeSet.containsThenInsert_fst Std.TreeSet.containsThenInsert_snd
  simp only [add, hinsert]
  cases seen.contains draft.key with
  | true => exact ⟨rfl, rfl⟩
  | false => exact ⟨rfl, Array.toList_push⟩

theorem add_cases (pool : DraftPool) (draft : Draft) :
    draft.key ∈ pool.seen ∧ (pool.add draft).drafts = pool.drafts ∨
      draft.key ∉ pool.seen ∧ (pool.add draft).drafts = pool.drafts ++ [draft] := by
  have hdrafts := (pool.add_eq draft).2
  rw [Std.TreeSet.mem_iff_contains]
  split at hdrafts
  · next hknown => exact .inl ⟨hknown, hdrafts⟩
  · next hnew => exact .inr ⟨hnew, hdrafts⟩

theorem mem_seen_add {pool : DraftPool} {draft : Draft} {key : String} :
    key ∈ (pool.add draft).seen ↔ key = draft.key ∨ key ∈ pool.seen := by
  rw [(pool.add_eq draft).1, Std.TreeSet.mem_insert, Std.LawfulEqCmp.compare_eq_iff_eq, eq_comm]

theorem length_add_le (pool : DraftPool) (draft : Draft) :
    (pool.add draft).drafts.length ≤ pool.drafts.length + 1 := by
  obtain ⟨-, hdrafts⟩ | ⟨-, hdrafts⟩ := pool.add_cases draft
  · rw [hdrafts]
    exact Nat.le_succ _
  · rw [hdrafts, List.length_append]
    exact Nat.le_refl _

theorem Grows.mono {kind' : Draft → Prop} (h : Grows kind pool pool')
    (hkind : ∀ draft, kind draft → kind' draft) : Grows kind' pool pool' := by
  refine h.lift id fun _ _ hadd ↦ ?_
  obtain ⟨draft, hdraft, rfl⟩ := hadd
  exact ⟨draft, hkind draft hdraft, rfl⟩

theorem Grows.forall_mem (h : Grows kind pool pool') (hpool : ∀ draft ∈ pool.drafts, kind draft) :
    ∀ draft ∈ pool'.drafts, kind draft := by
  induction h with
  | refl => exact hpool
  | @tail before _ _ hlast ih =>
    obtain ⟨draft, hdraft, rfl⟩ := hlast
    obtain ⟨-, hdrafts⟩ | ⟨-, hdrafts⟩ := before.add_cases draft
    · rwa [hdrafts]
    · rw [hdrafts, List.forall_mem_append, List.forall_mem_singleton]
      exact ⟨ih, hdraft⟩

theorem Grows.mem_seen (h : Grows kind pool pool') {key : String} (hkey : key ∈ pool.seen) :
    key ∈ pool'.seen := by
  induction h with
  | refl => exact hkey
  | tail _ hlast ih =>
    obtain ⟨draft, -, rfl⟩ := hlast
    exact mem_seen_add.mpr (.inr ih)

theorem Grows.extends (h : Grows kind pool pool') : pool.drafts <+: pool'.drafts := by
  induction h with
  | refl => exact List.prefix_rfl
  | @tail before _ _ hlast ih =>
    obtain ⟨draft, -, rfl⟩ := hlast
    obtain ⟨-, hdrafts⟩ | ⟨-, hdrafts⟩ := before.add_cases draft
    · rwa [hdrafts]
    · rw [hdrafts]
      exact ih.trans (List.prefix_append ..)

structure Distinct (earlier : List Draft) (pool : DraftPool) : Prop where
  seen : ∀ draft ∈ earlier ++ pool.drafts, draft.key ∈ pool.seen
  nodup : ((earlier ++ pool.drafts).map Draft.key).Nodup

theorem Distinct.add {earlier : List Draft} (h : Distinct earlier pool) (draft : Draft) :
    Distinct earlier (pool.add draft) := by
  have hold (d : Draft) (hd : d ∈ earlier ++ pool.drafts) : d.key ∈ (pool.add draft).seen :=
    mem_seen_add.mpr (.inr (h.seen d hd))
  obtain ⟨-, hdrafts⟩ | ⟨hnew, hdrafts⟩ := pool.add_cases draft
  · refine ⟨?_, ?_⟩
    · rwa [hdrafts]
    · rw [hdrafts]
      exact h.nodup
  · refine ⟨?_, ?_⟩
    · rw [hdrafts, ← List.append_assoc, List.forall_mem_append, List.forall_mem_singleton]
      exact ⟨hold, mem_seen_add.mpr (.inl rfl)⟩
    · rw [hdrafts, ← List.append_assoc, List.map_append, List.map_singleton]
      refine List.nodup_append.mpr ⟨h.nodup, List.nodup_singleton _, ?_⟩
      rintro _ hold _ hlast rfl
      obtain ⟨old, hmem, hkey⟩ := List.mem_map.mp hold
      rw [List.mem_singleton.mp hlast] at hkey
      exact hnew (hkey ▸ h.seen old hmem)

theorem Distinct.grows {earlier : List Draft} (h : Distinct earlier pool)
    (hgrows : Grows kind pool pool') : Distinct earlier pool' := by
  induction hgrows with
  | refl => exact h
  | tail _ hlast ih =>
    obtain ⟨draft, -, rfl⟩ := hlast
    exact ih.add draft

theorem distinct_empty : Distinct [] empty :=
  ⟨by simp, List.nodup_nil⟩

theorem Distinct.nextPhase (h : Distinct [] pool) :
    Distinct pool.drafts pool.nextPhase :=
  ⟨by simpa using h.seen, by simpa using h.nodup⟩

def Sourced (earlier : List Draft) (pool : DraftPool) : Prop :=
  ∀ key ∈ pool.seen, key ∈ (earlier ++ pool.drafts).map Draft.key

theorem Sourced.add {earlier : List Draft} (h : Sourced earlier pool) (draft : Draft) :
    Sourced earlier (pool.add draft) := by
  intro key hkey
  obtain ⟨hknown, hdrafts⟩ | ⟨-, hdrafts⟩ := pool.add_cases draft
  · rw [hdrafts]
    obtain rfl | hkey := mem_seen_add.mp hkey
    · exact h _ hknown
    · exact h key hkey
  · rw [hdrafts, ← List.append_assoc, List.map_append]
    obtain rfl | hkey := mem_seen_add.mp hkey
    · exact List.mem_append_right _ List.mem_cons_self
    · exact List.mem_append_left _ (h key hkey)

theorem Sourced.grows {earlier : List Draft} (h : Sourced earlier pool)
    (hgrows : Grows kind pool pool') : Sourced earlier pool' := by
  induction hgrows with
  | refl => exact h
  | tail _ hlast ih =>
    obtain ⟨draft, -, rfl⟩ := hlast
    exact ih.add draft

theorem sourced_empty : Sourced [] empty := by
  simp [Sourced, empty]

theorem Sourced.nextPhase (h : Sourced [] pool) :
    Sourced pool.drafts pool.nextPhase := by
  simpa [Sourced] using h

theorem sweep_of_le {target : ℕ} (h : target ≤ pool.size) (drafts : List Draft) :
    pool.sweep target drafts = pool := by
  cases drafts with
  | nil => rfl
  | cons draft rest => rw [sweep, if_pos h]

theorem grows_sweep (target : ℕ) {drafts : List Draft} (h : ∀ draft ∈ drafts, kind draft)
    (pool : DraftPool) : Grows kind pool (pool.sweep target drafts) := by
  induction drafts generalizing pool with
  | nil => exact .refl
  | cons draft rest ih =>
    obtain ⟨hdraft, hrest⟩ := List.forall_mem_cons.mp h
    rw [sweep]
    split
    · exact .refl
    · exact (grows_add hdraft pool).trans (ih hrest _)

end DraftPool

section Positives

def Intent.usable (schema : Schema) (intent : Intent) : List Template :=
  intent.templates.filter (·.isRenderable (!schema.entities.isEmpty) (!schema.relations.isEmpty))

theorem intentPlans_eq {schema : Schema} {intents : List Intent} {plans : List IntentPlan}
    (h : intentPlans schema intents = .ok plans) :
    plans = intents.map (fun intent ↦ ⟨intent, intent.usable schema⟩) ∧
      ∀ intent ∈ intents, intent.usable schema ≠ [] := by
  have hplans := forall₂_of_mapM h
  clear h
  induction hplans with
  | nil => simp
  | @cons intent plan intents plans hfirst hrest ih =>
    obtain ⟨rfl, husable⟩ := ih
    have hsome : intent.usable schema ≠ [] ∧ plan = ⟨intent, intent.usable schema⟩ := by
      dsimp only at hfirst
      split at hfirst
      · cases hfirst
      · next hsome => exact ⟨by simpa [Intent.usable] using hsome, (Except.ok.inj hfirst).symm⟩
    exact ⟨by rw [List.map_cons, hsome.2], List.forall_mem_cons.mpr ⟨hsome.1, husable⟩⟩

structure IntentPlan.Fits (schema : Schema) (intents : List Intent) (plan : IntentPlan) :
    Prop where
  intent_mem : plan.intent ∈ intents
  template_mem : ∀ template ∈ plan.templates, template ∈ plan.intent.templates
  labels : ∀ template ∈ plan.templates, template.needsLabel = true → schema.entities ≠ []
  relations : ∀ template ∈ plan.templates, template.needsRelation = true → schema.relations ≠ []

variable {schema : Schema} {intents : List Intent}

theorem Intent.fits_usable {intent : Intent} (h : intent ∈ intents) :
    IntentPlan.Fits schema intents ⟨intent, intent.usable schema⟩ := by
  have hrenderable {template : Template} (ht : template ∈ intent.usable schema) :
      template.isRenderable (!schema.entities.isEmpty) (!schema.relations.isEmpty) = true :=
    (List.mem_filter.mp ht).2
  refine ⟨h, fun _ ht ↦ (List.mem_filter.mp ht).1, fun t ht hneeds ↦ ?_, fun t ht hneeds ↦ ?_⟩
  · have hlabels := hrenderable ht
    simp [Template.isRenderable, hneeds] at hlabels
    exact hlabels.1
  · have hrelations := hrenderable ht
    simp [Template.isRenderable, hneeds] at hrelations
    exact hrelations.2

theorem intentPlans_fits {plans : List IntentPlan} (h : intentPlans schema intents = .ok plans) :
    ∀ plan ∈ plans, plan.Fits schema intents := by
  intro plan hplan
  obtain ⟨rfl, -⟩ := intentPlans_eq h
  obtain ⟨intent, hintent, rfl⟩ := List.mem_map.mp hplan
  exact Intent.fits_usable hintent

theorem templates_ne_nil {plans : List IntentPlan} (h : intentPlans schema intents = .ok plans) :
    ∀ plan ∈ plans, plan.templates ≠ [] := by
  intro plan hplan
  obtain ⟨rfl, husable⟩ := intentPlans_eq h
  obtain ⟨intent, hintent, rfl⟩ := List.mem_map.mp hplan
  exact husable intent hintent

theorem isEmpty_or_of_mem_slotBindings {needed : Bool} {terms : List String}
    {slot : Option String} (h : slot ∈ slotBindings needed terms) :
    terms.isEmpty = false ∨ needed = false := by
  cases needed with
  | false => exact .inr rfl
  | true =>
    obtain ⟨term, hterm, -⟩ := List.mem_map.mp h
    exact .inl (List.isEmpty_eq_false_iff.mpr (List.ne_nil_of_mem hterm))

theorem IntentPlan.Fits.drawn {plan : IntentPlan} (h : plan.Fits schema intents)
    (paraphrase : Bool) {template : Template} (htemplate : template ∈ plan.templates)
    {label relation : Option String}
    (hlabel : label ∈ slotBindings template.needsLabel schema.entities)
    (hrelation : relation ∈ slotBindings template.needsRelation schema.relations) :
    (template.draft plan.intent label relation).Drawn schema intents paraphrase := by
  refine ⟨⟨rfl, h.intent_mem, ?_⟩, fun hparaphrased ↦ nomatch hparaphrased⟩
  exact ⟨template, h.template_mem template htemplate, label, hlabel, relation, hrelation, rfl, rfl,
    rfl⟩

theorem IntentPlan.Fits.drawn_of_paraphrase? {plan : IntentPlan} (h : plan.Fits schema intents)
    {template : Template} (htemplate : template ∈ plan.templates) {label relation : Option String}
    (hlabel : label ∈ slotBindings template.needsLabel schema.entities)
    (hrelation : relation ∈ slotBindings template.needsRelation schema.relations)
    {question : String} (hquestion : paraphrase? (template.render label relation) = some question) :
    Draft.Drawn schema intents true
      { template.draft plan.intent label relation with question, paraphrased := true } := by
  refine ⟨⟨rfl, h.intent_mem, ?_⟩, fun _ ↦ rfl⟩
  exact ⟨template, h.template_mem template htemplate, label, hlabel, relation, hrelation, rfl, rfl,
    hquestion⟩

theorem allPositives_drawn {plans : List IntentPlan} (paraphrase : Bool)
    (h : ∀ plan ∈ plans, plan.Fits schema intents) :
    ∀ draft ∈ allPositives schema plans, draft.Drawn schema intents paraphrase := by
  intro draft hdraft
  obtain ⟨plan, hplan, hdraft⟩ := List.mem_flatMap.mp hdraft
  obtain ⟨template, htemplate, hdraft⟩ := List.mem_flatMap.mp hdraft
  obtain ⟨label, hlabel, hdraft⟩ := List.mem_flatMap.mp hdraft
  obtain ⟨relation, hrelation, rfl⟩ := List.mem_map.mp hdraft
  exact (h plan hplan).drawn paraphrase htemplate hlabel hrelation

variable [RandomSource σ]

theorem mem_slotBindings_of_chooseSlot {needed : Bool} {terms : List String}
    (hterms : needed = true → terms ≠ []) {source source' : σ} {slot : Option String}
    (h : chooseSlot needed terms source = (slot, source')) : slot ∈ slotBindings needed terms := by
  cases needed with
  | false =>
    obtain ⟨rfl, -⟩ := Prod.mk.inj h
    exact List.mem_singleton_self none
  | true =>
    cases slot with
    | none => exact absurd h (RandomSource.choose?_ne_none (hterms rfl))
    | some term => exact List.mem_map_of_mem (RandomSource.mem_of_choose? h)

theorem draftPositive_spec (paraphrase : Bool) {plan : IntentPlan}
    (h : plan.Fits schema intents) (hsome : plan.templates ≠ []) (pool : DraftPool) (source : σ) :
    ∃ draft, draft.Drawn schema intents paraphrase ∧
      (pool.add draft).Grows (·.Drawn schema intents paraphrase)
        (draftPositive schema paraphrase plan pool source).1 := by
  unfold draftPositive
  split
  · next hnone => exact absurd hnone (RandomSource.choose?_ne_none hsome)
  · next template source hchosen =>
    have htemplate := RandomSource.mem_of_choose? hchosen
    obtain ⟨⟨label, source⟩, hlabel⟩ :
        ∃ choice, chooseSlot template.needsLabel schema.entities source = choice := ⟨_, rfl⟩
    obtain ⟨⟨relation, source⟩, hrelation⟩ :
        ∃ choice, chooseSlot template.needsRelation schema.relations source = choice := ⟨_, rfl⟩
    have hbound := mem_slotBindings_of_chooseSlot (h.labels template htemplate) hlabel
    have hbound' := mem_slotBindings_of_chooseSlot (h.relations template htemplate) hrelation
    obtain ⟨⟨again, source⟩, hagain⟩ : ∃ choice, (if paraphrase then
        RandomSource.coin (UInt64.size / 2) source else (false, source)) = choice := ⟨_, rfl⟩
    simp only [hlabel, hrelation, hagain]
    refine ⟨_, h.drawn paraphrase htemplate hbound hbound', ?_⟩
    split
    · next question hvariant =>
      cases again with
      | false => cases hvariant
      | true =>
        cases paraphrase with
        | false => cases hagain
        | true =>
          have hdrawn := h.drawn_of_paraphrase? htemplate hbound hbound' hvariant
          exact DraftPool.grows_add hdrawn _
    · exact .refl

theorem draftPositives_grows (paraphrase : Bool) {plans : Array IntentPlan}
    (h : ∀ plan ∈ plans, plan.Fits schema intents ∧ plan.templates ≠ [])
    (target remaining attempt : ℕ) (pool : DraftPool) (source : σ) :
    pool.Grows (·.Drawn schema intents paraphrase)
      (draftPositives schema paraphrase plans target remaining attempt pool source).1 := by
  induction remaining generalizing attempt pool source with
  | zero => exact .refl
  | succ remaining ih =>
    rw [draftPositives]
    split
    · exact .refl
    · split
      · exact .refl
      · next plan hplan =>
        obtain ⟨hfits, hsome⟩ := h plan (Array.mem_of_getElem? hplan)
        obtain ⟨draft, hdraft, hgrows⟩ := draftPositive_spec paraphrase hfits hsome pool source
        exact ((DraftPool.grows_add hdraft pool).trans hgrows).trans (ih ..)

theorem synthesizePositives_fst (schema : Schema) (paraphrase : Bool) (plans : List IntentPlan)
    (target : ℕ) (pool : DraftPool) (source : σ) :
    (synthesizePositives schema paraphrase plans target pool source).1 =
      (draftPositives schema paraphrase plans.toArray target
        (max target plans.length * attemptsPerCase) 0 pool.nextPhase source).1.sweep target
          (allPositives schema plans) := by
  -- The sweep adds nothing to enough random questions, so it can be taken to follow in any case.
  unfold synthesizePositives
  dsimp only
  split
  · rfl
  · next henough => exact (DraftPool.sweep_of_le (Nat.le_of_not_lt henough) _).symm

theorem synthesizePositives_grows (paraphrase : Bool) {plans : List IntentPlan}
    (h : intentPlans schema intents = .ok plans) (target : ℕ) (pool : DraftPool) (source : σ) :
    DraftPool.Grows (·.Drawn schema intents paraphrase) pool.nextPhase
      (synthesizePositives schema paraphrase plans target pool source).1 := by
  have hfits := intentPlans_fits h
  have harray : ∀ plan ∈ plans.toArray, plan.Fits schema intents ∧ plan.templates ≠ [] := by
    intro plan hplan
    have hplan := List.mem_toArray.mp hplan
    exact ⟨hfits plan hplan, templates_ne_nil h plan hplan⟩
  rw [synthesizePositives_fst]
  exact (draftPositives_grows paraphrase harray ..).trans
    (DraftPool.grows_sweep target (allPositives_drawn paraphrase hfits) _)

end Positives

section Negatives

variable {schema : Schema} {intents : List Intent} [RandomSource σ]

theorem mem_usableFabricated {relation : String} :
    relation ∈ usableFabricated schema ↔ relation ∈ fabricatedRelations ∧
      ∀ known ∈ schema.relations, Text.lowerAscii known ≠ Text.lowerAscii relation := by
  simp [usableFabricated]

theorem draftNegatives_succ (schema : Schema) (intents : List Intent)
    (target remaining attempt : ℕ) (pool : DraftPool) (source : σ) :
    (draftNegatives schema (usableFabricated schema) intents.toArray target (remaining + 1) attempt
        pool source).1 = pool ∨
      pool.drafts.length < target ∧ ∃ draft source', draft.Negative schema intents ∧
        intents[attempt % intents.length]? = some draft.intent ∧
        draftNegatives schema (usableFabricated schema) intents.toArray target (remaining + 1)
            attempt pool source =
          draftNegatives schema (usableFabricated schema) intents.toArray target remaining
            (attempt + 1) (pool.add draft) source' := by
  rw [draftNegatives]
  split
  · exact .inl rfl
  · next hroom =>
    obtain ⟨⟨subject, source⟩, hsubject⟩ :
        ∃ choice, RandomSource.choose? schema.entities source = choice := ⟨_, rfl⟩
    obtain ⟨⟨relation, source⟩, hrelation⟩ :
        ∃ choice, RandomSource.choose? (usableFabricated schema) source = choice := ⟨_, rfl⟩
    obtain ⟨⟨object, source⟩, hobject⟩ :
        ∃ choice, RandomSource.choose? schema.entities source = choice := ⟨_, rfl⟩
    simp only [hsubject, hrelation, hobject]
    split
    · next subject relation object intent hintent =>
      obtain ⟨hfabricated, hlacks⟩ :=
        mem_usableFabricated.mp (RandomSource.mem_of_choose? hrelation)
      have hturn : intents[attempt % intents.length]? = some intent := by simpa using hintent
      refine .inr ⟨Nat.lt_of_not_le hroom, _, source, ?_, hturn, rfl⟩
      exact ⟨rfl, List.mem_of_getElem? hturn, rfl, rfl, rfl, subject,
        RandomSource.mem_of_choose? hsubject, object, RandomSource.mem_of_choose? hobject,
        relation, hfabricated, hlacks, rfl⟩
    · exact .inl rfl

theorem draftNegatives_spec (schema : Schema) (intents : List Intent)
    (target remaining attempt : ℕ) (pool : DraftPool) (source : σ)
    (hpool : pool.drafts.length ≤ target) :
    let drafted := (draftNegatives schema (usableFabricated schema) intents.toArray target remaining
      attempt pool source).1
    pool.Grows (·.Negative schema intents) drafted ∧ drafted.drafts.length ≤ target := by
  induction remaining generalizing attempt pool source with
  | zero => exact ⟨.refl, hpool⟩
  | succ remaining ih =>
    obtain hend | ⟨hroom, draft, source', hnegative, -, hnext⟩ :=
      draftNegatives_succ schema intents target remaining attempt pool source
    · rw [hend]
      exact ⟨.refl, hpool⟩
    · obtain ⟨hgrows, hfew⟩ := ih (attempt + 1) (pool.add draft) source'
        (Nat.le_trans (pool.length_add_le draft) hroom)
      rw [hnext]
      exact ⟨(DraftPool.grows_add hnegative pool).trans hgrows, hfew⟩

theorem synthesizeNegatives_spec (schema : Schema) (intents : List Intent) (target : ℕ)
    (source : σ) :
    let drafted := (synthesizeNegatives schema intents target source).1
    DraftPool.empty.Grows (·.Negative schema intents) drafted ∧ drafted.drafts.length ≤ target := by
  unfold synthesizeNegatives
  dsimp only
  split
  · exact ⟨.refl, Nat.zero_le _⟩
  · exact draftNegatives_spec schema intents target _ 0 .empty source (Nat.zero_le _)

end Negatives

section Phases

variable {α : Type} [Scalar α] [RandomSource σ] {schema : Schema} {intents : List Intent}
  {config : DatasetConfig α} {source : σ} {plans : List IntentPlan}
  {negatives positives : DraftPool × σ}

theorem phases_grow (hplans : intentPlans schema intents = .ok plans)
    (hnegatives : synthesizeNegatives schema intents (hardNegativeTarget config) source = negatives)
    (hpositives : synthesizePositives schema config.paraphrase plans
      (config.targetSize - negatives.1.drafts.length) negatives.1 negatives.2 = positives) :
    DraftPool.empty.Grows (·.Negative schema intents) negatives.1 ∧
      negatives.1.drafts.length ≤ hardNegativeTarget config ∧
      DraftPool.Grows (·.Drawn schema intents config.paraphrase) negatives.1.nextPhase
        positives.1 := by
  obtain ⟨hgrows, hfew⟩ :=
    synthesizeNegatives_spec schema intents (hardNegativeTarget config) source
  have hgrows' := synthesizePositives_grows config.paraphrase hplans
    (config.targetSize - negatives.1.drafts.length) negatives.1 negatives.2
  rw [hnegatives] at hgrows hfew
  rw [hpositives] at hgrows'
  exact ⟨hgrows, hfew, hgrows'⟩

end Phases

end WorkflowSearch
