import WorkflowSearch.Proofs.Blueprint.Soundness
import WorkflowSearch.Proofs.Lists
import WorkflowSearch.Proofs.Search.Prompt
import WorkflowSearch.Search.Mutator

namespace WorkflowSearch

variable {α σ : Type} [Scalar α]

namespace Parts.Sound

variable {parts : Parts}

theorem derived (h : parts.Sound) (parentId childId : String) (mutation : Mutation) :
    (parts.derived parentId childId mutation).Sound :=
  ⟨h.nonempty, h.tools_nodup, h.names_nodup, h.tools_known, h.ends_known⟩

theorem of_names_eq {parts' : Parts} (h : parts.Sound)
    (hnames : parts'.operators.map (·.name) = parts.operators.map (·.name))
    (hedges : parts'.edges = parts.edges) (htools : (parts'.tools.map (·.id)).Nodup)
    (hknown : ∀ op ∈ parts'.operators, ∀ tool ∈ op.tools, tool ∈ parts'.tools.map (·.id)) :
    parts'.Sound where
  nonempty hnil := h.nonempty (by simpa [hnil] using hnames.symm)
  tools_nodup := htools
  names_nodup := hnames ▸ h.names_nodup
  tools_known := hknown
  ends_known := by rw [hnames, hedges]; exact h.ends_known

theorem withPrompt (h : parts.Sound) {index : Nat} {op : Operator}
    (hop : parts.operators[index]? = some op) (prompt : String) :
    { parts with operators := parts.operators.set index { op with prompt } }.Sound := by
  refine h.of_names_eq ?_ rfl h.tools_nodup ?_
  · exact map_set_of_eq hop rfl
  · intro p hp tool ht
    rcases List.mem_or_eq_of_mem_set hp with hp | rfl
    · exact h.tools_known p hp tool ht
    · exact h.tools_known op (List.mem_of_getElem? hop) tool ht

theorem withoutTool (h : parts.Sound) (id : String) : (parts.withoutTool id).Sound := by
  refine h.of_names_eq ?_ rfl ?_ ?_
  · simp [Parts.withoutTool]
  · exact h.tools_nodup.sublist ((List.filter_sublist).map _)
  · simp only [Parts.withoutTool, List.mem_map]
    rintro _ ⟨op, hop, rfl⟩ tool ht
    obtain ⟨ht, hne⟩ := List.mem_filter.mp ht
    obtain ⟨t, htools, rfl⟩ := List.mem_map.mp (h.tools_known op hop tool ht)
    exact ⟨t, List.mem_filter.mpr ⟨htools, by simpa using hne⟩, rfl⟩

theorem withTool (h : parts.Sound) {tool : Tool} (hnew : tool.id ∉ parts.tools.map (·.id))
    (index : Nat) : (parts.withTool tool index).Sound := by
  refine h.of_names_eq ?_ rfl ?_ ?_
  · exact map_modify_of_forall (by simp) _ _
  · simp only [Parts.withTool, List.map_append, List.map_cons, List.map_nil]
    exact h.tools_nodup.append (List.nodup_singleton _) (by simpa using hnew)
  · simp only [Parts.withTool, List.map_append, List.mem_append]
    intro op hop id hid
    obtain ⟨p, hp, rfl | rfl⟩ := exists_of_mem_modify hop
    · exact .inl (h.tools_known op hp id hid)
    · rcases List.mem_append.mp hid with hid | hid
      · exact .inl (h.tools_known p hp id hid)
      · exact .inr (by simpa using hid)

theorem switched (h : parts.Sound) : parts.switched.Sound := by
  let mode := parts.topology.next
  have hnames : parts.switched.operators.map (·.name) =
      (mode.operators parts.boundTools).map (·.name) := by
    simp [Parts.switched, mode]
  refine ⟨?_, h.tools_nodup, ?_, ?_, fun e he ↦ wire_ends he⟩
  · exact fun hnil ↦ mode.operators_ne_nil parts.boundTools (by simpa [hnil] using hnames.symm)
  · exact hnames ▸ mode.operators_names_nodup _
  · intro op hop tool ht
    obtain ⟨p, hp, rfl⟩ := List.mem_map.mp hop
    rw [Topology.tools_of_mem_operators hp] at ht
    exact (List.mem_filter.mp ht).1

end Parts.Sound

namespace Parts

/-- The changes of the contents of a blueprint that a mutation stands for. -/
inductive Changed (catalog : List Tool) (task : String) (parts : Parts) : Mutation → Parts → Prop
  | promptRevision {op : Operator} {prompt variantId : String}
      (target : parts.operators[parts.revisionIndex]? = some op)
      (revised : IsRevision task op.prompt prompt) :
      Changed catalog task parts (.promptRevision op.name variantId)
        { parts with operators := parts.operators.set parts.revisionIndex { op with prompt } }
  | toolAdd {tool : Tool} {op : Operator} (known : tool ∈ catalog)
      (absent : tool.id ∉ parts.tools.map (·.id))
      (target : parts.operators[parts.executorIndex]? = some op) :
      Changed catalog task parts (.toolAdd tool.id op.name)
        (parts.withTool tool parts.executorIndex)
  | toolRemove {id : String} (present : id ∈ parts.tools.map (·.id))
      (others : 1 < parts.tools.length) :
      Changed catalog task parts (.toolRemove id) (parts.withoutTool id)
  | toolNoop : Changed catalog task parts .toolNoop parts
  | topologySwitch :
      Changed catalog task parts (.topologySwitch parts.topology parts.topology.next) parts.switched

theorem Changed.sound {catalog : List Tool} {task : String} {mutation : Mutation}
    {parts changed : Parts} (h : parts.Changed catalog task mutation changed)
    (hsound : parts.Sound) : changed.Sound := by
  cases h with
  | promptRevision htarget => exact hsound.withPrompt htarget _
  | toolAdd _ habsent => exact hsound.withTool habsent _
  | toolRemove => exact hsound.withoutTool _
  | toolNoop => exact hsound
  | topologySwitch => exact hsound.switched

end Parts

theorem firstMaximum_lt {scores : List α} (h : scores ≠ []) :
    firstMaximum scores < scores.length := by
  cases scores with
  | nil => exact absurd rfl h
  | cons first rest =>
    have hstep (best entry : α × ℕ) : (if best.1 < entry.1 then entry else best) = best ∨
        (if best.1 < entry.1 then entry else best) = entry :=
      (ite_eq_or_eq (best.1 < entry.1) entry best).symm
    have hm := foldl_mem_cons hstep (rest.zipIdx 1) (first, 0)
    rw [firstMaximum]
    rcases List.mem_cons.mp hm with he | hm
    · rw [he]; simp
    · have hlt := (List.mem_zipIdx hm).2.1
      rw [List.length_cons]
      omega

namespace RevisionRequest

theorem candidates_ne_nil (request : RevisionRequest) (limit : Nat) :
    request.candidates limit ≠ [] := by
  unfold candidates
  split <;> simp_all

theorem exists_selected (request : RevisionRequest) (limit recorded : Nat) :
    ∃ variant, (request.variants limit recorded : List (PromptVariant α)).find? (·.selected) =
      some variant := by
  rw [← Option.isSome_iff_exists, List.find?_isSome]
  let scored := (request.candidates limit).map fun c ↦
    (c, (promptScore c.prompt request.reflection.remedies : α))
  have hlt : firstMaximum (scored.map (·.2)) < scored.length := by
    have hscores : scored.map (·.2) ≠ [] := by
      simpa [scored] using request.candidates_ne_nil limit
    simpa using firstMaximum_lt hscores
  have hmem : (scored[firstMaximum (scored.map (·.2))], firstMaximum (scored.map (·.2))) ∈
      scored.zipIdx := by
    simp [List.mem_zipIdx_iff_getElem?]
  exact ⟨_, List.mem_map_of_mem hmem, by simp [scored]⟩

theorem choose_eq {request : RevisionRequest} {variants : List (PromptVariant α)}
    {variant : PromptVariant α} (h : variants.find? (·.selected) = some variant)
    {recorded : Nat} : request.choose recorded variants = variant := by
  rw [choose, h, Option.getD_some]

end RevisionRequest

namespace Mutator

variable (mutator : Mutator α) (parent : Blueprint)

/-- A child with an id, made from its parent by a mutation. -/
def Derives (childId : String) (child : Blueprint) (mutation : Mutation) : Prop :=
  ∃ changed, parent.parts.Changed mutator.catalog mutator.task mutation changed ∧
    child.parts = changed.derived parent.parts.id childId mutation

omit [Scalar α] in
theorem derive_of_changed {mutation : Mutation} {changed : Parts}
    (h : parent.parts.Changed mutator.catalog mutator.task mutation changed) (childId : String) :
    ∃ child, derive parent changed childId mutation = .ok (child, mutation) ∧
      mutator.Derives parent childId child mutation := by
  have hchild := (h.sound parent.parts_sound).derived parent.parts.id childId mutation
  refine ⟨⟨_, (Parts.fault?_eq_none_iff _).mpr hchild⟩, ?_, changed, h, rfl⟩
  rw [derive, Blueprint.ofParts_of_sound hchild]
  rfl

omit [Scalar α] in
theorem of_derive_eq_ok {parts : Parts} {childId : String} {mutation mutation' : Mutation}
    {child : Blueprint} (h : derive parent parts childId mutation = .ok (child, mutation')) :
    child.parts = parts.derived parent.parts.id childId mutation ∧ mutation' = mutation := by
  unfold derive at h
  cases hchild : Blueprint.ofParts (parts.derived parent.parts.id childId mutation) with
  | error =>
    rw [hchild] at h
    cases h
  | ok made =>
    rw [hchild] at h
    obtain ⟨rfl, rfl⟩ := Prod.mk.inj (Except.ok.inj h)
    exact ⟨Blueprint.parts_of_ofParts hchild, rfl⟩

def revisionRequest (op : Operator) (parentTrain : Summary α) (childId : String) :
    RevisionRequest where
  blueprintId := childId
  operator := op.name
  prompt := op.prompt
  reflection := reflect (parentTrain.lowScoring mutator.config.lowScoreThreshold)
  task := mutator.task

theorem exists_revision (parentTrain : Summary α) (childId : String) (context : SearchContext α σ) :
    ∃ op variant, parent.parts.operators[parent.parts.revisionIndex]? = some op ∧
      let variants : List (PromptVariant α) :=
        (mutator.revisionRequest op parentTrain childId).variants mutator.config.maxPromptCandidates
          context.variants.length
      variants.find? (·.selected) = some variant ∧
      mutator.revisePrompt parent parentTrain childId context =
        (derive parent { parent.parts with
            operators := parent.parts.operators.set parent.parts.revisionIndex
              { op with prompt := variant.prompt } } childId (.promptRevision op.name variant.id),
          { context with variants := context.variants ++ variants }) := by
  have hindex : parent.parts.revisionIndex < parent.parts.operators.length :=
    Nat.mod_lt _ (List.length_pos_iff.mpr parent.parts_sound.nonempty)
  have hop := List.getElem?_eq_getElem hindex
  obtain ⟨variant, hvariant⟩ := (mutator.revisionRequest _ parentTrain childId).exists_selected
    (α := α) mutator.config.maxPromptCandidates context.variants.length
  refine ⟨_, variant, hop, hvariant, ?_⟩
  unfold revisionRequest at hvariant
  unfold revisePrompt
  simp only [hop, RevisionRequest.choose_eq hvariant, revisionRequest]

theorem revisePrompt_ok (parentTrain : Summary α) (childId : String)
    (context : SearchContext α σ) :
    ∃ child mutation,
      (mutator.revisePrompt parent parentTrain childId context).1 = .ok (child, mutation) ∧
        mutator.Derives parent childId child mutation := by
  obtain ⟨op, variant, hop, hvariant, hrevised⟩ :=
    mutator.exists_revision parent parentTrain childId context
  have hrevision := RevisionRequest.isRevision_of_mem_variants (List.mem_of_find?_eq_some hvariant)
  have hchanged : parent.parts.Changed mutator.catalog mutator.task
      (.promptRevision op.name variant.id) _ := .promptRevision hop hrevision
  obtain ⟨child, hchild, hderives⟩ := mutator.derive_of_changed parent hchanged childId
  rw [hrevised]
  exact ⟨child, _, hchild, hderives⟩

theorem weak_of_weakestTool? {config : SearchConfig α} {gains : ToolGains α} {tools : List Tool}
    {id : String} (h : weakestTool? config gains tools = some id) :
    id ∈ tools.map (·.id) ∧ config.toolRemovalMinObservations ≤ gains.observations id ∧
      gains.gain id ≤ config.toolRemovalThreshold := by
  unfold weakestTool? at h
  dsimp only at h
  split at h
  · cases h
  · next first rest hweak =>
    have hmem : id ∈ first :: rest := by
      rw [← Option.some.inj h]
      exact foldl_mem_cons (fun best id ↦ (ite_eq_or_eq _ id best).symm) rest first
    obtain ⟨hpresent, hlow⟩ := List.mem_filter.mp (hweak ▸ hmem)
    exact ⟨hpresent, of_decide_eq_true hlow⟩

theorem mem_rankTools {task : String} {intents : List Intent} {gains : ToolGains α}
    {catalog : List Tool} {tool : Tool} :
    tool ∈ rankTools task intents gains catalog ↔ tool ∈ catalog := by
  simp [rankTools]

theorem toolChange_cases (gains : ToolGains α) :
    (∃ tool ∈ mutator.catalog, tool.id ∉ parent.parts.tools.map (·.id) ∧
      mutator.toolChange parent gains = .add tool) ∨
    (∃ id ∈ parent.parts.tools.map (·.id), 1 < parent.parts.tools.length ∧
      mutator.toolChange parent gains = .remove id) ∨
    mutator.toolChange parent gains = .keep := by
  unfold toolChange
  dsimp only
  split
  · next id hweak =>
    rw [ite_eq_iff] at hweak
    obtain ⟨⟨-, hothers⟩, hweak⟩ | ⟨-, hnone⟩ := hweak
    · exact .inr (.inl ⟨id, (weak_of_weakestTool? hweak).1, hothers, rfl⟩)
    · cases hnone
  · split
    · next tool htool =>
      have hranked := List.mem_of_find?_eq_some htool
      have habsent := List.find?_some htool
      refine .inl ⟨tool, mem_rankTools.mp hranked, ?_, rfl⟩
      rw [← Blueprint.hasTool_iff]
      simpa using habsent
    · split
      · exact .inr (.inr rfl)
      · next hfew =>
        split
        · next tool htool =>
          have hpresent := List.find?_some htool
          exact .inr (.inl ⟨tool.id, (parent.hasTool_iff _).mp hpresent, by omega, rfl⟩)
        · exact .inr (.inr rfl)

def visibleGains (gains : ToolGains α) : ToolGains α :=
  if mutator.config.enableToolHistoricalGain then gains else []

structure RemovesWeakest (gains : ToolGains α) (tool : String) : Prop where
  tracked : mutator.config.enableToolHistoricalGain = true
  others : 1 < parent.parts.tools.length
  weakest : weakestTool? mutator.config gains parent.parts.tools = some tool

/-- A tool is removed because none is weak, the catalog has none to add, and it is ranked last. -/
structure RemovesLast (gains : ToolGains α) (tool : String) : Prop where
  others : 1 < parent.parts.tools.length
  strong : mutator.config.enableToolHistoricalGain = true →
    weakestTool? mutator.config gains parent.parts.tools = none
  complete : ∀ other ∈ mutator.catalog, parent.hasTool other.id = true
  last : ∃ found, found.id = tool ∧
    (rankTools mutator.task mutator.intents (mutator.visibleGains gains)
      mutator.catalog).reverse.find? (parent.hasTool ·.id) = some found

theorem removes_of_toolChange {gains : ToolGains α} {tool : String}
    (h : mutator.toolChange parent gains = .remove tool) :
    mutator.RemovesWeakest parent gains tool ∨ mutator.RemovesLast parent gains tool := by
  unfold toolChange at h
  dsimp only at h
  split at h
  · next id hweak =>
    obtain rfl := ToolChange.remove.inj h
    rw [ite_eq_iff] at hweak
    obtain ⟨⟨htracked, hothers⟩, hweak⟩ | ⟨-, hnone⟩ := hweak
    · rw [if_pos htracked] at hweak
      exact .inl ⟨htracked, hothers, hweak⟩
    · cases hnone
  · next hstrong =>
    split at h
    · cases h
    · next hcomplete =>
      split at h
      · cases h
      · next hfew =>
        split at h
        · next found hfound =>
          obtain rfl := ToolChange.remove.inj h
          have hothers : 1 < parent.parts.tools.length := by omega
          refine .inr ⟨hothers, fun htracked ↦ ?_, fun other hother ↦ ?_, found, rfl, hfound⟩
          · rwa [if_pos ⟨htracked, hothers⟩, if_pos htracked] at hstrong
          · have hknown := List.find?_eq_none.mp hcomplete other (mem_rankTools.mpr hother)
            simpa using hknown
        · cases h

theorem executorIndex_lt {parts : Parts} (h : parts.operators ≠ []) :
    parts.executorIndex < parts.operators.length := by
  unfold Parts.executorIndex
  cases hi : parts.operators.findIdx? (·.role.isExecutor) with
  | none => simpa using List.length_pos_iff.mpr h
  | some i => exact (List.findIdx?_eq_some_iff_getElem.mp hi).1

theorem changeTools_ok (childId : String) (gains : ToolGains α) :
    ∃ child mutation, mutator.changeTools parent childId gains = .ok (child, mutation) ∧
      mutator.Derives parent childId child mutation := by
  unfold changeTools
  obtain ⟨tool, hknown, habsent, hchange⟩ | ⟨id, hpresent, hothers, hchange⟩ | hchange :=
    mutator.toolChange_cases parent gains
  · have hop := List.getElem?_eq_getElem (executorIndex_lt parent.parts_sound.nonempty)
    obtain ⟨child, hchild, hderives⟩ :=
      mutator.derive_of_changed parent (.toolAdd hknown habsent hop) childId
    exact ⟨child, _, by simp only [hchange, hop]; exact hchild, hderives⟩
  · obtain ⟨child, hchild, hderives⟩ :=
      mutator.derive_of_changed parent (.toolRemove hpresent hothers) childId
    exact ⟨child, _, by simp only [hchange]; exact hchild, hderives⟩
  · obtain ⟨child, hchild, hderives⟩ := mutator.derive_of_changed parent .toolNoop childId
    exact ⟨child, _, by simp only [hchange]; exact hchild, hderives⟩

/-- A mutation of any family makes a child of any parent. -/
theorem apply_ok (family : MutationFamily) (parentTrain : Summary α) (childId : String)
    (context : SearchContext α σ) :
    ∃ child mutation,
      (mutator.apply family parent parentTrain childId context).1 = .ok (child, mutation) ∧
        mutator.Derives parent childId child mutation := by
  cases family with
  | prompt => exact mutator.revisePrompt_ok parent parentTrain childId context
  | tool => exact mutator.changeTools_ok parent childId context.gains
  | topology =>
    obtain ⟨child, hchild, hderives⟩ := mutator.derive_of_changed parent .topologySwitch childId
    exact ⟨child, _, hchild, hderives⟩

theorem derives_of_apply {family : MutationFamily} {parentTrain : Summary α} {childId : String}
    {context : SearchContext α σ} {child : Blueprint} {mutation : Mutation}
    (h : (mutator.apply family parent parentTrain childId context).1 = .ok (child, mutation)) :
    mutator.Derives parent childId child mutation := by
  obtain ⟨made, mutation', happly, hderives⟩ :=
    mutator.apply_ok parent family parentTrain childId context
  obtain ⟨rfl, rfl⟩ := Prod.mk.inj (Except.ok.inj (happly.symm.trans h))
  exact hderives

theorem gains_apply (family : MutationFamily) (parentTrain : Summary α) (childId : String)
    (context : SearchContext α σ) :
    (mutator.apply family parent parentTrain childId context).2.gains = context.gains := by
  cases family with
  | prompt =>
    obtain ⟨op, variant, -, -, hrevised⟩ :=
      mutator.exists_revision parent parentTrain childId context
    rw [apply, hrevised]
  | tool | topology => rfl

theorem nextBlueprint_apply (family : MutationFamily) (parentTrain : Summary α) (childId : String)
    (context : SearchContext α σ) :
    (mutator.apply family parent parentTrain childId context).2.nextBlueprint =
      context.nextBlueprint := by
  cases family with
  | prompt =>
    obtain ⟨op, variant, -, -, hrevised⟩ :=
      mutator.exists_revision parent parentTrain childId context
    rw [apply, hrevised]
  | tool | topology => rfl

theorem family_of_apply {family : MutationFamily} {parentTrain : Summary α} {childId : String}
    {context : SearchContext α σ} {child : Blueprint} {mutation : Mutation}
    (h : (mutator.apply family parent parentTrain childId context).1 = .ok (child, mutation)) :
    mutation.family = family := by
  cases family with
  | prompt =>
    obtain ⟨op, variant, -, -, hrevised⟩ :=
      mutator.exists_revision parent parentTrain childId context
    rw [apply, hrevised] at h
    obtain ⟨-, rfl⟩ := of_derive_eq_ok parent h
    rfl
  | tool =>
    dsimp only [apply] at h
    unfold changeTools at h
    split at h
    · obtain ⟨-, rfl⟩ := of_derive_eq_ok parent h
      rfl
    · obtain ⟨-, rfl⟩ := of_derive_eq_ok parent h
      rfl
    · dsimp only at h
      split at h
      · cases h
      · obtain ⟨-, rfl⟩ := of_derive_eq_ok parent h
        rfl
  | topology =>
    obtain ⟨-, rfl⟩ := of_derive_eq_ok parent h
    rfl

theorem toolChange_of_apply {family : MutationFamily} {parentTrain : Summary α} {childId : String}
    {context : SearchContext α σ} {child : Blueprint} {tool : String}
    (h : (mutator.apply family parent parentTrain childId context).1 =
      .ok (child, .toolRemove tool)) :
    mutator.toolChange parent context.gains = .remove tool := by
  obtain rfl : .tool = family := mutator.family_of_apply parent h
  dsimp only [apply] at h
  unfold changeTools at h
  cases hchange : mutator.toolChange parent context.gains with
  | remove id =>
    simp only [hchange] at h
    obtain ⟨-, ⟨⟩⟩ := of_derive_eq_ok parent h
    rfl
  | keep =>
    simp only [hchange] at h
    cases (of_derive_eq_ok parent h).2
  | add tool =>
    simp only [hchange] at h
    split at h
    · cases h
    · cases (of_derive_eq_ok parent h).2

end Mutator

end WorkflowSearch
