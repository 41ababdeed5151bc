import WorkflowSearch.Blueprint.Json
import WorkflowSearch.Proofs.Blueprint.Soundness
import WorkflowSearch.Proofs.Json.Reading
import WorkflowSearch.Proofs.Results

namespace WorkflowSearch

open Json Json.RecordReader

theorem Role.reads_name (role : Role) : Reads (asName? all name) (.str role.name) role :=
  Json.reads_name (by decide) (by cases role <;> decide)

theorem Topology.reads_toJson (mode : Topology) : Reads ofJson? mode.toJson mode :=
  Json.reads_name (by decide) (by cases mode <;> decide)

theorem Operator.reads_toJson (op : Operator) : Reads ofJson? op.toJson op := by
  refine reads_record fun members hfields ↦ ?_
  obtain ⟨hname, hrole, hprompt, hschema, htools⟩ := hfields
  rw [required_bind hname (reads_str _), required_bind hrole op.role.reads_name,
    required_bind hprompt (reads_str _), required_bind hschema (reads_str _),
    required_bind htools (reads_strs _)]
  rfl

theorem Edge.reads_toJson (e : Edge) : Reads ofJson? e.toJson e := by
  refine reads_record fun members hfields ↦ ?_
  obtain ⟨hsource, htarget⟩ := hfields
  rw [required_bind hsource (reads_str _), required_bind htarget (reads_str _)]
  rfl

theorem Tool.reads_toJson (tool : Tool) : Reads ofJson? tool.toJson tool := by
  refine reads_record fun members hfields ↦ ?_
  obtain ⟨hid, htags, hdescription⟩ := hfields
  rw [required_bind hid (reads_str _), required_bind htags (reads_strs _),
    required_bind hdescription (reads_str _)]
  rfl

theorem Mutation.reads_toJson (mutation : Mutation) : Reads ofJson? mutation.toJson mutation := by
  cases mutation with
  | promptRevision operator variantId =>
    refine reads_record fun members hfields ↦ ?_
    obtain ⟨hkind, hoperator, hvariant⟩ := hfields
    rw [required_bind hkind (reads_str _)]
    refine (required_bind hoperator (reads_str _) _).trans ?_
    rw [required_bind hvariant (reads_str _)]
    rfl
  | toolAdd tool operator =>
    refine reads_record fun members hfields ↦ ?_
    obtain ⟨hkind, htool, hoperator⟩ := hfields
    rw [required_bind hkind (reads_str _)]
    refine (required_bind htool (reads_str _) _).trans ?_
    rw [required_bind hoperator (reads_str _)]
    rfl
  | toolRemove tool =>
    refine reads_record fun members hfields ↦ ?_
    obtain ⟨hkind, htool⟩ := hfields
    rw [required_bind hkind (reads_str _)]
    exact required_bind htool (reads_str _) _
  | toolNoop =>
    refine reads_record fun members hkind ↦ ?_
    rw [required_bind hkind (reads_str _)]
    rfl
  | topologySwitch before after =>
    refine reads_record fun members hfields ↦ ?_
    obtain ⟨hkind, hbefore, hafter⟩ := hfields
    rw [required_bind hkind (reads_str _)]
    refine (required_bind hbefore before.reads_toJson _).trans ?_
    rw [required_bind hafter after.reads_toJson]
    rfl

theorem Parts.reads_toJson (parts : Parts) : Reads ofJson? parts.toJson parts := by
  refine reads_record fun members hfields ↦ ?_
  obtain ⟨hid, happ, htask, htopology, hoperators, hedges, htools, hparent, hlineage⟩ := hfields
  rw [required_bind hid (reads_str _), required_bind happ (reads_str _),
    required_bind htask (reads_str _), required_bind htopology parts.topology.reads_toJson,
    required_bind hoperators (reads_list fun op _ ↦ op.reads_toJson),
    required_bind hedges (reads_list fun e _ ↦ e.reads_toJson),
    required_bind htools (reads_list fun tool _ ↦ tool.reads_toJson),
    optional_bind hparent (reads_option _),
    required_bind hlineage (reads_list fun mutation _ ↦ mutation.reads_toJson)]
  rfl

section Distinct

theorem Operator.distinct_toJson (op : Operator) : op.toJson.Distinct := by
  refine .obj (by simp) ?_
  simp [Distinct.str, distinct_strs]

theorem Edge.distinct_toJson (e : Edge) : e.toJson.Distinct := by
  refine .obj (by simp) ?_
  simp [Distinct.str]

theorem Tool.distinct_toJson (tool : Tool) : tool.toJson.Distinct := by
  refine .obj (by simp) ?_
  simp [Distinct.str, distinct_strs]

theorem Mutation.distinct_toJson (mutation : Mutation) : mutation.toJson.Distinct := by
  cases mutation <;> refine .obj (by simp) ?_ <;> simp [Distinct.str, Topology.toJson]

theorem Parts.distinct_toJson (parts : Parts) : parts.toJson.Distinct := by
  refine .obj (by simp) ?_
  simp [Distinct.str, Topology.toJson, distinct_option, distinct_arr_map,
    Operator.distinct_toJson, Edge.distinct_toJson, Tool.distinct_toJson, Mutation.distinct_toJson]

end Distinct

namespace Blueprint

theorem ofParts_eq_ok_iff {parts : Parts} {blueprint : Blueprint} :
    ofParts parts = .ok blueprint ↔ blueprint.parts = parts := by
  constructor
  · exact parts_of_ofParts
  · rintro rfl
    exact ofParts_of_sound blueprint.parts_sound

theorem ofJson?_eq_some_iff {j : Json} {blueprint : Blueprint} :
    ofJson? j = some blueprint ↔ Parts.ofJson? j = some blueprint.parts := by
  rw [ofJson?, Option.bind_eq_bind, Option.bind_eq_some_iff]
  simp only [toOption_eq_some_iff, ofParts_eq_ok_iff, exists_eq_right']

/-- A blueprint is read off its encoding, also off the canonical one with its members in order. The
contents of a blueprint, sound or not, are read off every spelling of their encoding, and whatever
JSON contents are read off, a blueprint is read off it exactly if they are sound; it has them. -/
theorem json_roundtrip :
    (∀ blueprint : Blueprint, ofJson? blueprint.toJson = some blueprint ∧
      ofJson? blueprint.toJson.canonical = some blueprint) ∧
    (∀ parts : Parts, Spells parts.toJson parts.toJson ∧
      Spells parts.toJson parts.toJson.canonical ∧
      ∀ j, Spells parts.toJson j → Parts.ofJson? j = some parts) ∧
    ∀ j parts, Parts.ofJson? j = some parts →
      ((∃ blueprint, ofJson? j = some blueprint) ↔ parts.Sound) ∧
      ∀ blueprint, ofJson? j = some blueprint → blueprint.parts = parts := by
  have hself (parts : Parts) := parts.distinct_toJson.spells_self
  have hcanonical (parts : Parts) := parts.distinct_toJson.spells_canonical
  refine ⟨fun blueprint ↦ ⟨?_, ?_⟩, fun parts ↦ ⟨hself parts, hcanonical parts, parts.reads_toJson⟩,
    fun j parts hparts ↦ ⟨⟨?_, ?_⟩, ?_⟩⟩
  · exact ofJson?_eq_some_iff.mpr (blueprint.parts.reads_toJson _ (hself _))
  · exact ofJson?_eq_some_iff.mpr (blueprint.parts.reads_toJson _ (hcanonical _))
  · rintro ⟨blueprint, hblueprint⟩
    obtain rfl := Option.some.inj (hparts.symm.trans (ofJson?_eq_some_iff.mp hblueprint))
    exact blueprint.parts_sound
  · intro hsound
    exact ⟨⟨parts, (Parts.fault?_eq_none_iff parts).mpr hsound⟩, ofJson?_eq_some_iff.mpr hparts⟩
  · intro blueprint hblueprint
    exact Option.some.inj ((ofJson?_eq_some_iff.mp hblueprint).symm.trans hparts)

/-- Contents that lost their tools, but not the operators that list them. -/
theorem toolless_not_decoded :
    let parts := initialParts "a" "demo" "t" [⟨"SchemaGetter", ["schema"], "Read schema"⟩] .linear
    let j := parts.toJson.mapMembers ["tools"] fun _ ↦ .arr []
    Parts.ofJson? j = some { parts with tools := [] } ∧ ¬ ∃ blueprint, ofJson? j = some blueprint := by
  intro parts j
  have hparts : Parts.ofJson? j = some { parts with tools := [] } := rfl
  refine ⟨hparts, ?_⟩
  rw [(json_roundtrip.2.2 j _ hparts).1, ← Parts.fault?_eq_none_iff]
  decide

end Blueprint

end WorkflowSearch
