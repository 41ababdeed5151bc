import WorkflowSearch.Proofs.Search.Mutation
import WorkflowSearch.Proofs.Search.Revisions

namespace WorkflowSearch

variable {α σ : Type} [Scalar α]

structure Parts.IsChildOf (child parent : Parts) (childId : String) (mutation : Mutation) :
    Prop where
  id : child.id = childId
  parentId : child.parentId = some parent.id
  appName : child.appName = parent.appName
  task : child.task = parent.task
  lineage : child.lineage = parent.lineage ++ [mutation]

/-- Lists that differ at an index only, where one item has taken the place of another. -/
structure ReplacedAt (before after : List Operator) (index : ℕ) (old new : Operator) : Prop where
  old_at : before[index]? = some old
  new_at : after[index]? = some new
  others : ∀ other, other ≠ index → after[other]? = before[other]?

theorem replacedAt_set {operators : List Operator} {index : ℕ} {old : Operator}
    (h : operators[index]? = some old) (new : Operator) :
    ReplacedAt operators (operators.set index new) index old new := by
  have hindex := (List.getElem?_eq_some_iff.mp h).1
  exact ⟨h, List.getElem?_set_self hindex, fun other hother ↦ List.getElem?_set_ne hother.symm⟩

theorem replacedAt_modify {operators : List Operator} {index : ℕ} {old : Operator}
    (h : operators[index]? = some old) (change : Operator → Operator) :
    ReplacedAt operators (operators.modify index change) index old (change old) := by
  refine ⟨h, ?_, fun other hother ↦ ?_⟩
  · rw [List.getElem?_modify, h, Option.map_eq_map, Option.map_some, if_pos rfl]
  · simp [hother.symm]

namespace Parts

variable {before after : Parts} {index : ℕ}

def IsToolTarget (operators : List Operator) (index : ℕ) : Prop :=
  (∀ op ∈ operators, op.role.isExecutor = false) ∧ index = 0 ∨
    (∃ op, operators[index]? = some op ∧ op.role.isExecutor = true) ∧
      ∀ earlier op, earlier < index → operators[earlier]? = some op → op.role.isExecutor = false

theorem isToolTarget_executorIndex (parts : Parts) :
    IsToolTarget parts.operators parts.executorIndex := by
  unfold executorIndex
  cases hfound : parts.operators.findIdx? (·.role.isExecutor) with
  | none =>
    refine .inl ⟨fun op hop ↦ ?_, rfl⟩
    exact List.findIdx?_eq_none_iff.mp hfound op hop
  | some found =>
    obtain ⟨hlt, hexecutor, hearlier⟩ := List.findIdx?_eq_some_iff_getElem.mp hfound
    refine .inr ⟨⟨_, List.getElem?_eq_getElem hlt, hexecutor⟩, fun earlier op hless hop ↦ ?_⟩
    obtain ⟨hlt', rfl⟩ := List.getElem?_eq_some_iff.mp hop
    simpa using hearlier earlier hless

/-- The contents that a mutation may change, and how it changes them. -/
inductive Frame (catalog : List Tool) (before after : Parts) : Mutation → Prop
  /-- Prompts are revised in turn, and nothing but the prompt whose turn it is differs. -/
  | promptRevision {op : Operator} {prompt variantId : String}
      (topology : after.topology = before.topology) (edges : after.edges = before.edges)
      (tools : after.tools = before.tools)
      (operators : ReplacedAt before.operators after.operators
        (before.lineage.countP (·.family = .prompt) % before.operators.length) op
        { op with prompt })
      (differs : prompt ≠ op.prompt) :
      Frame catalog before after (.promptRevision op.name variantId)
  /-- A tool of the catalog that was absent joins the tool set and one operator. -/
  | toolAdd {tool : Tool} {op : Operator} {index : ℕ}
      (topology : after.topology = before.topology) (edges : after.edges = before.edges)
      (known : tool ∈ catalog) (absent : ∀ other ∈ before.tools, other.id ≠ tool.id)
      (tools : after.tools = before.tools ++ [tool])
      (target : IsToolTarget before.operators index)
      (operators : ReplacedAt before.operators after.operators index op
        { op with tools := op.tools ++ [tool.id] }) :
      Frame catalog before after (.toolAdd tool.id op.name)
  /-- A tool leaves the tool set and all operators. -/
  | toolRemove {tool : Tool} (topology : after.topology = before.topology)
      (edges : after.edges = before.edges) (present : tool ∈ before.tools)
      (tools : after.tools = before.tools.filter (·.id ≠ tool.id))
      (operators : after.operators = before.operators.map fun op ↦
        { op with tools := op.tools.filter (· ≠ tool.id) }) :
      Frame catalog before after (.toolRemove tool.id)
  | toolNoop (topology : after.topology = before.topology) (edges : after.edges = before.edges)
      (tools : after.tools = before.tools) (operators : after.operators = before.operators) :
      Frame catalog before after .toolNoop
  | topologySwitch (topology : after.topology = before.topology.next)
      (tools : after.tools = before.tools) :
      Frame catalog before after (.topologySwitch before.topology after.topology)

theorem Changed.frame {catalog : List Tool} {task : String} {mutation : Mutation}
    (h : before.Changed catalog task mutation after)
    (hdiffers : mutation.family = .prompt → after.operators ≠ before.operators) :
    Frame catalog before after mutation := by
  cases h with
  | @promptRevision op prompt variantId target =>
    refine .promptRevision rfl rfl rfl (replacedAt_set target _) fun hsame ↦ ?_
    refine hdiffers rfl ?_
    obtain ⟨hlt, hop⟩ := List.getElem?_eq_some_iff.mp target
    subst hsame
    exact hop ▸ List.set_getElem_self hlt
  | @toolAdd tool op known absent target =>
    have hnew : ∀ other ∈ before.tools, other.id ≠ tool.id := fun other hother hsame ↦
      absent (hsame ▸ List.mem_map_of_mem hother)
    exact .toolAdd rfl rfl known hnew rfl before.isToolTarget_executorIndex
      (replacedAt_modify target _)
  | toolRemove present =>
    obtain ⟨tool, htool, rfl⟩ := List.mem_map.mp present
    exact .toolRemove rfl rfl htool rfl rfl
  | toolNoop => exact .toolNoop rfl rfl rfl rfl
  | topologySwitch => exact .topologySwitch rfl rfl

theorem Frame.derived {catalog : List Tool} {mutation : Mutation}
    (h : Frame catalog before after mutation) (parentId childId : String) (made : Mutation) :
    Frame catalog before (after.derived parentId childId made) mutation := by
  cases h with
  | promptRevision topology edges tools operators differs =>
    exact .promptRevision topology edges tools operators differs
  | toolAdd topology edges known absent tools target operators =>
    exact .toolAdd topology edges known absent tools target operators
  | toolRemove topology edges present tools operators =>
    exact .toolRemove topology edges present tools operators
  | toolNoop topology edges tools operators => exact .toolNoop topology edges tools operators
  | topologySwitch topology tools => exact .topologySwitch topology tools

theorem Changed.isChildOf {catalog : List Tool} {task : String} {mutation : Mutation}
    (h : before.Changed catalog task mutation after) (childId : String) :
    (after.derived before.id childId mutation).IsChildOf before childId mutation := by
  cases h <;> exact ⟨rfl, rfl, rfl, rfl, rfl⟩

end Parts

namespace Mutator

variable (mutator : Mutator α) (parent : Blueprint)

theorem operators_ne_of_revisePrompt {parentTrain : Summary α} {childId : String}
    {context : SearchContext α σ} {child : Blueprint} {mutation : Mutation}
    (h : (mutator.revisePrompt parent parentTrain childId context).1 = .ok (child, mutation)) :
    child.parts.operators ≠ parent.parts.operators := by
  obtain ⟨op, variant, hop, hvariant, hrevised⟩ :=
    mutator.exists_revision parent parentTrain childId context
  have hdiffers : variant.prompt ≠ op.prompt :=
    RevisionRequest.prompt_ne_of_mem_variants (List.mem_of_find?_eq_some hvariant)
  rw [hrevised] at h
  obtain ⟨hchild, -⟩ := of_derive_eq_ok parent h
  intro hsame
  have hnew : child.parts.operators[parent.parts.revisionIndex]? =
      some { op with prompt := variant.prompt } := by
    rw [hchild]
    exact (replacedAt_set hop _).new_at
  rw [hsame, hop] at hnew
  exact hdiffers (congrArg Operator.prompt (Option.some.inj hnew)).symm

/-- Whatever the parent, the catalog and the context, a mutation of any family makes a sound child
with the given id. The child has the app and the task of its parent, names it as its parent, and
goes on with its lineage by the mutation, which is of that family and has changed nothing outside
its frame. -/
theorem apply_keeps_frame (family : MutationFamily) (parentTrain : Summary α) (childId : String)
    (context : SearchContext α σ) :
    ∃ child mutation,
      (mutator.apply family parent parentTrain childId context).1 = .ok (child, mutation) ∧
        child.parts.Sound ∧ child.parts.IsChildOf parent.parts childId mutation ∧
        mutation.family = family ∧
        Parts.Frame mutator.catalog parent.parts child.parts mutation := by
  obtain ⟨child, mutation, hchild, changed, hchanged, hparts⟩ :=
    mutator.apply_ok parent family parentTrain childId context
  have hfamily := mutator.family_of_apply parent hchild
  refine ⟨child, mutation, hchild, child.parts_sound, ?_, hfamily, ?_⟩
  · rw [hparts]
    exact hchanged.isChildOf childId
  · have hdiffers : mutation.family = .prompt → changed.operators ≠ parent.parts.operators := by
      intro hprompt
      obtain rfl : family = .prompt := hfamily.symm.trans hprompt
      have hne := mutator.operators_ne_of_revisePrompt parent hchild
      rwa [hparts] at hne
    rw [hparts]
    exact (hchanged.frame hdiffers).derived parent.parts.id childId mutation

end Mutator

end WorkflowSearch
