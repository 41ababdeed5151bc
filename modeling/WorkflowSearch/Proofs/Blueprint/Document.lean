import WorkflowSearch.Blueprint.Document
import WorkflowSearch.Proofs.Blueprint.Encoding

namespace WorkflowSearch

open Json

theorem Tool.eq_of_meet (a b : Tool)
    (h : Meet (.obj [("name", .str a.id), ("desc", .str a.description), ("tags", .strs a.tags)])
      (.obj [("name", .str b.id), ("desc", .str b.description), ("tags", .strs b.tags)])) :
    a = b := by
  obtain ⟨hid, hdescription, htags⟩ := h.fields rfl
  cases a
  cases b
  obtain rfl := hid.eq_of_reads (reads_str _) (reads_str _)
  obtain rfl := hdescription.eq_of_reads (reads_str _) (reads_str _)
  obtain rfl := htags.eq_of_reads (reads_strs _) (reads_strs _)
  rfl

theorem Operator.eq_of_meet (a b : Operator)
    (h : Meet (.obj [("name", .str a.name), ("role", .str a.role.name),
        ("instruction", .str a.prompt), ("output_schema", .str a.outputSchema),
        ("tools", .strs a.tools)])
      (.obj [("name", .str b.name), ("role", .str b.role.name), ("instruction", .str b.prompt),
        ("output_schema", .str b.outputSchema), ("tools", .strs b.tools)])) : a = b := by
  obtain ⟨hname, hrole, hprompt, hschema, htools⟩ := h.fields rfl
  cases a
  cases b
  obtain rfl := hname.eq_of_reads (reads_str _) (reads_str _)
  obtain rfl := hrole.eq_of_reads (Role.reads_name _) (Role.reads_name _)
  obtain rfl := hprompt.eq_of_reads (reads_str _) (reads_str _)
  obtain rfl := hschema.eq_of_reads (reads_str _) (reads_str _)
  obtain rfl := htools.eq_of_reads (reads_strs _) (reads_strs _)
  rfl

theorem Edge.eq_of_meet (a b : Edge)
    (h : Meet (.strs [a.source, a.target]) (.strs [b.source, b.target])) : a = b := by
  cases a
  cases b
  obtain ⟨⟩ := h.eq_of_reads (reads_strs _) (reads_strs _)
  rfl

namespace Blueprint

theorem distinct_document (blueprint : Blueprint) : blueprint.document.Distinct := by
  refine .obj (by simp) ?_
  simp only [List.forall_mem_cons]
  refine ⟨.obj (by simp) ?_, .obj (by simp) ?_, distinct_arr_map (fun tool ↦ .obj (by simp) ?_) _,
    distinct_arr_map (fun op ↦ .obj (by simp) ?_) _, .obj (by simp) ?_, by simp⟩
  all_goals simp [Distinct.str, Topology.toJson, distinct_option, distinct_strs, distinct_arr_map]

theorem parts_eq_of_meet {first second : Blueprint} (h : Meet first.document second.document) :
    first.parts = { second.parts with lineage := first.parts.lineage } ∧
      first.parts.lineage.map Mutation.text = second.parts.lineage.map Mutation.text := by
  obtain ⟨happ, hblueprint, htools, hoperators, htopology⟩ := h.fields rfl
  obtain ⟨hname, hdesc, -⟩ := happ.fields rfl
  obtain ⟨hid, hparent, hlineage⟩ := hblueprint.fields rfl
  obtain ⟨hmode, hedges⟩ := htopology.fields rfl
  refine ⟨?_, hlineage.eq_of_reads (reads_strs _) (reads_strs _)⟩
  rw [Parts.mk.injEq]
  exact ⟨hid.eq_of_reads (reads_str _) (reads_str _),
    hname.eq_of_reads (reads_str _) (reads_str _),
    hdesc.eq_of_reads (reads_str _) (reads_str _),
    hmode.eq_of_reads (Topology.reads_toJson _) (Topology.reads_toJson _),
    hoperators.eq_of_list Operator.eq_of_meet,
    hedges.eq_of_list Edge.eq_of_meet,
    htools.eq_of_list Tool.eq_of_meet,
    hparent.eq_of_reads (reads_option _) (reads_option _), rfl⟩

end Blueprint

end WorkflowSearch
