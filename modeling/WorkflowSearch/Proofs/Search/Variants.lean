import WorkflowSearch.Proofs.Search.Best
import WorkflowSearch.Proofs.Search.Growth
import WorkflowSearch.Proofs.Search.PromptScore
import WorkflowSearch.Proofs.Text.Numbered

namespace WorkflowSearch

variable {α σ : Type} [Scalar α]

theorem firstMaximum_spec [OrderedScalar α] {scores : List α} (hne : scores ≠ [])
    (hnumbers : ∀ score ∈ scores, score ≤ score) :
    ∃ before best after, scores = before ++ best :: after ∧ firstMaximum scores = before.length ∧
      (∀ score ∈ before, score < best) ∧ ∀ score ∈ after, score ≤ best := by
  obtain ⟨first, rest, rfl⟩ := List.exists_cons_of_ne_nil hne
  have hnumber {entry : α × ℕ} (h : entry ∈ (first :: rest).zipIdx) : entry.1 ≤ entry.1 :=
    hnumbers entry.1 (List.fst_mem_of_mem_zipIdx h)
  have hentries : (first, 0) :: rest.zipIdx 1 = (first :: rest).zipIdx := rfl
  obtain ⟨before, best, after, hsplit, hfold, hbefore, hafter⟩ :=
    foldl_first_greatest (r := fun a b : α × ℕ ↦ a.1 < b.1) (fun _ _ ↦ Scalar.lt_asymm)
      (rest.zipIdx 1) (first, 0) fun a _ b _ c hc ↦
        Scalar.lt_or_lt_of_lt (hnumber (hentries ▸ hc))
  rw [hentries] at hsplit
  have hscores : first :: rest = before.map (·.1) ++ best.1 :: after.map (·.1) := by
    rw [← List.zipIdx_map_fst 0 (first :: rest), hsplit, List.map_append, List.map_cons]
  have hplace : best.2 = before.length := by
    have hget : (first :: rest).zipIdx[before.length]? = some best := by
      rw [hsplit, List.getElem?_append_right le_rfl, Nat.sub_self, List.getElem?_cons_zero]
    rw [List.getElem?_zipIdx, Option.map_eq_some_iff] at hget
    obtain ⟨_, -, rfl⟩ := hget
    exact Nat.zero_add _
  refine ⟨before.map (·.1), best.1, after.map (·.1), hscores, ?_, ?_, ?_⟩
  · rw [List.length_map, ← hplace, ← hfold]
    rfl
  · exact List.forall_mem_map.mpr hbefore
  · refine List.forall_mem_map.mpr fun entry hentry ↦ ?_
    have hmem : entry ∈ (first :: rest).zipIdx := by simp [hsplit, hentry]
    have hbest : best ∈ (first :: rest).zipIdx := by simp [hsplit]
    exact Scalar.le_of_not_lt (hnumber hbest) (hnumber hmem) (hafter entry hentry)

namespace RevisionRequest

variable (request : RevisionRequest)

def scored (limit : ℕ) : List (PromptCandidate × α) :=
  (request.candidates limit).map fun candidate ↦
    (candidate, promptScore candidate.prompt request.reflection.remedies)

def variantOf (recorded best : ℕ) (entry : (PromptCandidate × α) × ℕ) : PromptVariant α where
  id := variantId (recorded + entry.2)
  blueprintId := request.blueprintId
  operator := request.operator
  strategy := entry.1.1.strategy
  prompt := entry.1.1.prompt
  score := entry.1.2
  keywords := request.reflection.remedies
  length := entry.1.1.prompt.utf8ByteSize
  selected := entry.2 = best

theorem variants_eq (limit recorded : ℕ) :
    (request.variants limit recorded : List (PromptVariant α)) =
      (request.scored limit).zipIdx.map
        (request.variantOf recorded (firstMaximum ((request.scored limit : List (_ × α)).map (·.2)))) :=
  rfl

theorem exists_best [PromptScalar α] (hremedies : request.reflection.remedies.length ≤ 9)
    (limit : ℕ) :
    ∃ before top after, (request.scored limit : List (_ × α)) = before ++ top :: after ∧
      firstMaximum ((request.scored limit : List (_ × α)).map (·.2)) = before.length ∧
      (∀ entry ∈ before, entry.2 < top.2) ∧ ∀ entry ∈ after, entry.2 ≤ top.2 := by
  have hne : (request.scored limit : List (_ × α)).map (·.2) ≠ [] := by
    simpa [scored] using request.candidates_ne_nil limit
  have hnumbers : ∀ score ∈ (request.scored limit : List (_ × α)).map (·.2), score ≤ score := by
    rw [scored, List.map_map, List.forall_mem_map]
    exact fun candidate _ ↦ PromptScalar.promptScore_isNumber candidate.prompt hremedies
  obtain ⟨_, _, _, hscores, hbest, hless, hnone⟩ := firstMaximum_spec hne hnumbers
  obtain ⟨before, tail, hscored, rfl, htail⟩ := List.map_eq_append_iff.mp hscores
  obtain ⟨top, after, rfl, rfl, rfl⟩ := List.map_eq_cons_iff.mp htail
  rw [List.length_map] at hbest
  rw [List.forall_mem_map] at hless hnone
  exact ⟨before, top, after, hscored, hbest, hless, hnone⟩

/-- The variants of one revision, numbered on from those recorded before: the one that is used is
marked, and is the first of the greatest score. -/
structure Generated (recorded : ℕ) (generated : List (PromptVariant α))
    (chosen : PromptVariant α) : Prop where
  ids : generated.map (·.id) = (List.range generated.length).map fun i ↦ variantId (recorded + i)
  origin : ∀ variant ∈ generated,
    variant.blueprintId = request.blueprintId ∧ variant.operator = request.operator
  selected : chosen.selected = true
  first : ∃ before after, generated = before ++ chosen :: after ∧
    (∀ variant ∈ before, variant.selected = false ∧ variant.score < chosen.score) ∧
    ∀ variant ∈ after, variant.selected = false ∧ variant.score ≤ chosen.score

theorem generated [PromptScalar α] (hremedies : request.reflection.remedies.length ≤ 9)
    (limit recorded : ℕ) {chosen : PromptVariant α}
    (h : (request.variants limit recorded).find? (·.selected) = some chosen) :
    request.Generated recorded (request.variants limit recorded) chosen := by
  obtain ⟨before, top, after, hscored, hbest, hless, hnone⟩ :=
    request.exists_best (α := α) hremedies limit
  have hvariants := request.variants_eq (α := α) limit recorded
  rw [hbest] at hvariants
  let variant := request.variantOf (α := α) recorded before.length
  have hsplit : request.variants limit recorded = before.zipIdx.map variant ++
      variant (top, before.length) :: (after.zipIdx (before.length + 1)).map variant := by
    rw [hvariants, hscored, List.zipIdx_append, List.zipIdx_cons, List.map_append, List.map_cons,
      Nat.zero_add]
  have hpassed (entries : List ((PromptCandidate × α) × ℕ))
      (hindex : ∀ entry ∈ entries, entry.2 ≠ before.length) :
      ∀ v ∈ entries.map variant, v.selected = false :=
    List.forall_mem_map.mpr fun entry hentry ↦ decide_eq_false (hindex entry hentry)
  have hbefore := hpassed before.zipIdx fun entry hentry ↦ by
    have hlt := (List.mem_zipIdx hentry).2.1
    omega
  have hafter := hpassed (after.zipIdx (before.length + 1)) fun entry hentry ↦ by
    have hle := (List.mem_zipIdx hentry).1
    omega
  have htop : (variant (top, before.length)).selected = true := decide_eq_true rfl
  obtain rfl : variant (top, before.length) = chosen := by
    have hskipped : (before.zipIdx.map variant).find? (·.selected) = none :=
      List.find?_eq_none.mpr fun v hv ↦ by simp [hbefore v hv]
    rw [hsplit, List.find?_append, hskipped, Option.none_or, List.find?_cons_of_pos htop] at h
    exact Option.some.inj h
  refine ⟨?_, ?_, htop, _, _, hsplit, fun v hv ↦ ⟨hbefore v hv, ?_⟩, fun v hv ↦ ⟨hafter v hv, ?_⟩⟩
  · have hplaces : (request.scored limit : List (_ × α)).zipIdx.map (·.2) =
        List.range (request.scored limit : List (_ × α)).length := by
      rw [List.zipIdx_map_snd, List.range_eq_range']
    rw [hvariants, List.length_map, List.length_zipIdx, ← hplaces, List.map_map, List.map_map]
    rfl
  · rw [hvariants]
    exact List.forall_mem_map.mpr fun entry _ ↦ ⟨rfl, rfl⟩
  · obtain ⟨entry, hentry, rfl⟩ := List.mem_map.mp hv
    exact hless entry.1 (List.fst_mem_of_mem_zipIdx hentry)
  · obtain ⟨entry, hentry, rfl⟩ := List.mem_map.mp hv
    exact hnone entry.1 (List.fst_mem_of_mem_zipIdx hentry)

end RevisionRequest

namespace Mutator

variable (mutator : Mutator α) (parent : Blueprint)

def FirstBest (variants : List (PromptVariant α)) (chosen : PromptVariant α) : Prop :=
  ∃ before after, variants = before ++ chosen :: after ∧
    (∀ variant ∈ before, variant.score < chosen.score) ∧
    ∀ variant ∈ after, variant.score ≤ chosen.score

structure Uses (child : Blueprint) (operator id : String) (chosen : PromptVariant α) : Prop where
  id_eq : chosen.id = id
  selected : chosen.selected = true
  blueprintId_eq : chosen.blueprintId = child.parts.id
  operator_eq : chosen.operator = operator
  prompt_eq : (child.operator? operator).map (·.prompt) = some chosen.prompt

/-- What a mutation that makes a child adds to the variants: those of a prompt revision, one of which
it uses, and none if it is of another family. -/
structure Records (recorded : ℕ) (child : Blueprint) (mutation : Mutation)
    (more : List (PromptVariant α)) : Prop where
  ids : more.map (·.id) = (List.range more.length).map fun i ↦ variantId (recorded + i)
  origin : ∀ variant ∈ more, variant.blueprintId = child.parts.id
  used : ∀ {operator id}, mutation = .promptRevision operator id →
    ∃ chosen ∈ more, Uses child operator id chosen ∧ FirstBest more chosen
  selected : ∀ variant ∈ more, variant.selected = true →
    ∃ operator, mutation = .promptRevision operator variant.id
  count : more.countP (·.selected) = if mutation.family = .prompt then 1 else 0

theorem records_nil (recorded : ℕ) (child : Blueprint) {mutation : Mutation}
    (h : mutation.family ≠ .prompt) :
    Records recorded child mutation ([] : List (PromptVariant α)) := by
  refine ⟨rfl, by simp, ?_, by simp, ?_⟩
  · rintro operator id rfl
    exact absurd rfl h
  · rw [if_neg h]
    rfl

theorem records_of_generated {request : RevisionRequest} {recorded : ℕ}
    {generated : List (PromptVariant α)} {chosen : PromptVariant α} {child : Blueprint}
    (h : request.Generated recorded generated chosen) (hid : request.blueprintId = child.parts.id)
    (hprompt : (child.operator? request.operator).map (·.prompt) = some chosen.prompt) :
    Records recorded child (.promptRevision request.operator chosen.id) generated := by
  obtain ⟨before, after, hgenerated, hbefore, hafter⟩ := h.first
  have hchosen : chosen ∈ generated := by simp [hgenerated]
  obtain ⟨hblueprint, hoperator⟩ := h.origin chosen hchosen
  refine ⟨h.ids, fun variant hvariant ↦ (h.origin variant hvariant).1.trans hid, ?_, ?_, ?_⟩
  · rintro _ _ ⟨⟩
    exact ⟨chosen, hchosen, ⟨rfl, h.selected, hblueprint.trans hid, hoperator, hprompt⟩, before,
      after, hgenerated, fun variant hvariant ↦ (hbefore variant hvariant).2,
      fun variant hvariant ↦ (hafter variant hvariant).2⟩
  · intro variant hvariant hselected
    rw [hgenerated, List.mem_append, List.mem_cons] at hvariant
    obtain hvariant | rfl | hvariant := hvariant
    · rw [(hbefore variant hvariant).1] at hselected
      cases hselected
    · exact ⟨_, rfl⟩
    · rw [(hafter variant hvariant).1] at hselected
      cases hselected
  · have hskipped : before.countP (·.selected) = 0 :=
      List.countP_eq_zero.mpr fun variant hvariant ↦ by simp [(hbefore variant hvariant).1]
    have hrest : after.countP (·.selected) = 0 :=
      List.countP_eq_zero.mpr fun variant hvariant ↦ by simp [(hafter variant hvariant).1]
    rw [hgenerated, List.countP_append, List.countP_cons_of_pos h.selected, hskipped, hrest]
    rfl

theorem exists_records [PromptScalar α] {family : MutationFamily} {parentTrain : Summary α}
    {childId : String} {context after : SearchContext α σ} {child : Blueprint} {mutation : Mutation}
    (h : mutator.apply family parent parentTrain childId context = (.ok (child, mutation), after)) :
    ∃ more, after.variants = context.variants ++ more ∧
      Records context.variants.length child mutation more := by
  have hfamily : mutation.family = family := mutator.family_of_apply parent (congrArg Prod.fst h)
  cases family with
  | prompt =>
    obtain ⟨op, chosen, hop, hchosen, hrevised⟩ :=
      mutator.exists_revision parent parentTrain childId context
    rw [apply, hrevised] at h
    obtain ⟨hderive, rfl⟩ := Prod.mk.inj h
    obtain ⟨hparts, rfl⟩ := of_derive_eq_ok parent hderive
    have hrevised : { op with prompt := chosen.prompt } ∈ child.parts.operators := by
      rw [hparts]
      exact List.mem_set (List.getElem?_eq_some_iff.mp hop).1 _
    have hfound : child.operator? op.name = some { op with prompt := chosen.prompt } :=
      find?_key_eq_some child.parts_sound.names_nodup hrevised
    have hgenerated := RevisionRequest.generated _ (length_remedies_reflect _) _ _ hchosen
    exact ⟨_, rfl, records_of_generated hgenerated (congrArg Parts.id hparts).symm
      (congrArg (Option.map _) hfound)⟩
  | tool | topology =>
    obtain ⟨-, rfl⟩ := Prod.mk.inj h
    exact ⟨[], (List.append_nil _).symm, records_nil _ child (by rw [hfamily]; decide)⟩

end Mutator

namespace SearchProblem

variable (problem : SearchProblem α)

/-- The variants are numbered, and tell the prompt revisions of the tree. -/
structure VariantsAudited (state : SearchState α σ) : Prop where
  ids : state.context.variants.map (·.id) =
    (List.range state.context.variants.length).map variantId
  numbered : ∀ variant ∈ state.context.variants,
    ∃ k < state.tree.size, variant.blueprintId = blueprintId k
  used : ∀ node ∈ state.tree.created, ∀ {operator id},
    node.mutation = some (.promptRevision operator id) →
      (∃ k < state.tree.size, node.blueprint.parts.id = blueprintId k) ∧
      ∃ chosen ∈ state.context.variants, Mutator.Uses node.blueprint operator id chosen ∧
        Mutator.FirstBest (state.context.variants.filter
          (·.blueprintId = node.blueprint.parts.id)) chosen
  selected : ∀ variant ∈ state.context.variants, variant.selected = true →
    ∃ node ∈ state.tree.created, ∃ operator,
      node.mutation = some (.promptRevision operator variant.id)
  count : state.context.variants.countP (·.selected) =
    state.traces.countP (·.mutation.family = .prompt)

variable {problem}

theorem Seeded.variantsAudited {root : Blueprint} {source : σ} {history : History} {node : Node α}
    (h : problem.Seeded root history (problem.seeded root source history) node) :
    VariantsAudited (problem.seeded root source history) := by
  have hnone : (problem.seeded root source history).context.variants = [] := rfl
  refine ⟨rfl, by simp [hnone], ?_, by simp [hnone], by rw [h.traces]; rfl⟩
  intro made hmade operator id hmutation
  rw [h.created, List.mem_singleton] at hmade
  rw [hmade, h.mutation] at hmutation
  cases hmutation

section Appended

variable {state : SearchState α σ} {more : List (PromptVariant α)}

omit [Scalar α] in
theorem filter_appended_earlier
    (horigin : ∀ variant ∈ more, variant.blueprintId = blueprintId state.tree.size) {k : ℕ}
    (hk : k < state.tree.size) :
    (state.context.variants ++ more).filter (·.blueprintId = blueprintId k) =
      state.context.variants.filter (·.blueprintId = blueprintId k) := by
  have hnone : more.filter (·.blueprintId = blueprintId k) = [] :=
    List.filter_eq_nil_iff.mpr fun variant hvariant hsame ↦ by
      rw [horigin variant hvariant, decide_eq_true_eq] at hsame
      exact hk.ne' (Text.numbered_injective "bp-" hsame)
  rw [List.filter_append, hnone, List.append_nil]

theorem VariantsAudited.filter_appended_last (h : VariantsAudited state)
    (horigin : ∀ variant ∈ more, variant.blueprintId = blueprintId state.tree.size) :
    (state.context.variants ++ more).filter (·.blueprintId = blueprintId state.tree.size) =
      more := by
  have hnone : state.context.variants.filter (·.blueprintId = blueprintId state.tree.size) = [] :=
    List.filter_eq_nil_iff.mpr fun variant hvariant hsame ↦ by
      obtain ⟨k, hk, hid⟩ := h.numbered variant hvariant
      rw [hid, decide_eq_true_eq] at hsame
      exact hk.ne (Text.numbered_injective "bp-" hsame)
  have hall : more.filter (·.blueprintId = blueprintId state.tree.size) = more :=
    List.filter_eq_self.mpr fun variant hvariant ↦ decide_eq_true (horigin variant hvariant)
  rw [List.filter_append, hnone, hall, List.nil_append]

end Appended

theorem VariantsAudited.expanded [PromptScalar α] {round expansion : ℕ}
    {before after : SearchState α σ} {parent child : Node α} {entry : TraceEntry α}
    (h : VariantsAudited before) (hnumbered : Numbered before)
    (hexpanded : problem.Expanded round expansion before after parent child entry)
    (happlied : problem.Applied before after parent child entry) : VariantsAudited after := by
  obtain @⟨family, source, context, hderived, hcontext⟩ := happlied
  obtain ⟨more, hmore, hrecords⟩ := problem.mutator.exists_records parent.blueprint hderived
  have hvariants : after.context.variants = before.context.variants ++ more :=
    (congrArg (·.variants) hcontext).trans hmore
  have hsize := hexpanded.size_eq
  have hchild : child.blueprint.parts.id = blueprintId before.tree.size := by
    obtain ⟨changed, -, hparts⟩ := problem.derives_of_deriveChild (congrArg Prod.fst hderived)
    rw [hparts, ← hnumbered.nextBlueprint]
    rfl
  have horigin : ∀ variant ∈ more, variant.blueprintId = blueprintId before.tree.size :=
    fun variant hvariant ↦ (hrecords.origin variant hvariant).trans hchild
  have hearlier {k : ℕ} (hk : k < before.tree.size) : k < after.tree.size := by omega
  have hlast : before.tree.size < after.tree.size := by omega
  refine ⟨?_, ?_, ?_, ?_, ?_⟩
  · rw [hvariants, List.map_append, h.ids, hrecords.ids, List.length_append, List.range_add,
      List.map_append, List.map_map]
    rfl
  · rw [hvariants, List.forall_mem_append]
    refine ⟨fun variant hvariant ↦ ?_, fun variant hvariant ↦ ?_⟩
    · obtain ⟨k, hk, hid⟩ := h.numbered variant hvariant
      exact ⟨k, hearlier hk, hid⟩
    · exact ⟨_, hlast, horigin variant hvariant⟩
  · rw [hvariants, hexpanded.created, List.forall_mem_append, List.forall_mem_singleton]
    refine ⟨fun node hnode operator id hmutation ↦ ?_, fun {operator id} hmutation ↦ ?_⟩
    · obtain ⟨⟨k, hk, hid⟩, chosen, hchosen, huses, hfirst⟩ := h.used node hnode hmutation
      refine ⟨⟨k, hearlier hk, hid⟩, chosen, List.mem_append_left _ hchosen, huses, ?_⟩
      rw [hid] at hfirst ⊢
      rwa [filter_appended_earlier horigin hk]
    · refine ⟨⟨_, hlast, hchild⟩, ?_⟩
      have hmutation : entry.mutation = .promptRevision operator id :=
        Option.some.inj (hexpanded.describes.mutation.symm.trans hmutation)
      obtain ⟨chosen, hchosen, huses, hfirst⟩ := hrecords.used hmutation
      refine ⟨chosen, List.mem_append_right _ hchosen, huses, ?_⟩
      rwa [hchild, h.filter_appended_last horigin]
  · rw [hvariants, hexpanded.created, List.forall_mem_append]
    refine ⟨fun variant hvariant hselected ↦ ?_, fun variant hvariant hselected ↦ ?_⟩
    · obtain ⟨node, hnode, hmutation⟩ := h.selected variant hvariant hselected
      exact ⟨node, List.mem_append_left _ hnode, hmutation⟩
    · obtain ⟨operator, hmutation⟩ := hrecords.selected variant hvariant hselected
      exact ⟨child, List.mem_append_right _ (List.mem_singleton_self child), operator,
        hexpanded.describes.mutation.trans (congrArg some hmutation)⟩
  · rw [hvariants, hexpanded.traces, List.countP_append, List.countP_append, h.count,
      hrecords.count, List.countP_singleton]
    simp only [decide_eq_true_eq]

section Run

variable [RandomSource σ]

theorem variantId_injective : Function.Injective variantId := by
  intro k k' h
  have hnumber := Text.numbered_injective "pv-" h
  omega

/-- The variants of a run audit its prompt revisions. They are numbered from one on, so their ids are
distinct. Each node that a prompt revision made has one variant of the id of the revision: it is
selected, has the node's blueprint, the revised operator and the prompt of that operator, and is the
first of the greatest score among the variants of the blueprint. No other variants are selected, so
there are as many selected ones as there are prompt revisions in the log. -/
theorem run_variants_audited [PromptScalar α] {root : Blueprint} {source : σ} {history : History}
    {outcome : SearchOutcome α σ} (h : problem.run root source history = .ok outcome) :
    let tree := outcome.final.tree
    let variants := outcome.final.context.variants
    (∀ k variant, variants[k]? = some variant → variant.id = "pv-" ++ Text.padded 4 (k + 1)) ∧
    (variants.map (·.id)).Nodup ∧
    (∀ node ∈ tree.nodes, ∀ operator id, node.mutation = some (.promptRevision operator id) →
      ∃ chosen, variants.filter (·.id = id) = [chosen] ∧
        chosen.selected = true ∧ chosen.blueprintId = node.blueprint.parts.id ∧
        chosen.operator = operator ∧
        (node.blueprint.operator? operator).map (·.prompt) = some chosen.prompt ∧
        ∃ before after,
          variants.filter (·.blueprintId = node.blueprint.parts.id) = before ++ chosen :: after ∧
          (∀ variant ∈ before, variant.score < chosen.score) ∧
          ∀ variant ∈ after, variant.score ≤ chosen.score) ∧
    (∀ variant ∈ variants, variant.selected = true →
      ∃ node ∈ tree.nodes, ∃ operator,
        node.mutation = some (.promptRevision operator variant.id)) ∧
    variants.countP (·.selected) =
      outcome.final.traces.countP (·.mutation.family = .prompt) := by
  intro tree variants
  obtain ⟨-, hreaches⟩ := reaches_of_run h
  obtain ⟨rootNode, hseeded⟩ := problem.exists_seeded root source history
  obtain ⟨-, haudited⟩ : Numbered outcome.final ∧ VariantsAudited outcome.final :=
    hreaches.applied_induction (P := fun state ↦ Numbered state ∧ VariantsAudited state)
      (fun _ _ hexpanded happlied hstate ↦ ⟨hstate.1.expanded hexpanded happlied,
        hstate.2.expanded hstate.1 hexpanded happlied⟩)
      ⟨hseeded.numbered, hseeded.variantsAudited⟩
  have hnodup : (variants.map (·.id)).Nodup := by
    rw [haudited.ids]
    exact List.nodup_range.map variantId_injective
  refine ⟨?_, hnodup, ?_, ?_, haudited.count⟩
  · intro k variant hvariant
    have hid : (variants.map (·.id))[k]? = some variant.id := by
      rw [List.getElem?_map, hvariant, Option.map_some]
    obtain ⟨hlt, -⟩ := List.getElem?_eq_some_iff.mp hvariant
    rw [haudited.ids, List.getElem?_map, List.getElem?_range hlt, Option.map_some] at hid
    exact (Option.some.inj hid).symm
  · intro node hnode operator id hmutation
    obtain ⟨-, chosen, hchosen, huses, hfirst⟩ :=
      haudited.used node.asCreated (List.mem_map_of_mem hnode) hmutation
    refine ⟨chosen, ?_, huses.selected, huses.blueprintId_eq, huses.operator_eq, huses.prompt_eq,
      hfirst⟩
    rw [← huses.id_eq]
    exact filter_key_eq_singleton hnodup hchosen
  · intro variant hvariant hselected
    obtain ⟨_, hcreated, operator, hmutation⟩ := haudited.selected variant hvariant hselected
    obtain ⟨node, hnode, rfl⟩ := List.mem_map.mp hcreated
    exact ⟨node, hnode, operator, hmutation⟩

theorem simulatedProblem_variants_audited :
    ∃ outcome, simulatedProblem.run simulatedRoot (ChaCha.ofSeed 0) [] = .ok outcome ∧
      (outcome.final.context.variants.map (·.id)).Nodup ∧
      outcome.final.context.variants.countP (·.selected) =
        outcome.final.traces.countP (·.mutation.family = .prompt) := by
  obtain ⟨outcome, houtcome, -⟩ :=
    run_reaches simulatedProblem_train_ne_nil simulatedRoot (ChaCha.ofSeed 0) []
  obtain ⟨-, hids, -, -, hcount⟩ := run_variants_audited houtcome
  exact ⟨outcome, houtcome, hids, hcount⟩

end Run

end SearchProblem

end WorkflowSearch
