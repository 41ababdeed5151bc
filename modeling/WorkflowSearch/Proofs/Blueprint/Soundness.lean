import Mathlib.Data.List.Nodup
import Mathlib.Data.Option.Basic
import Mathlib.Tactic.Common
import WorkflowSearch.Blueprint.Wiring

namespace WorkflowSearch

/-- Distinct names, and a target for every reference. -/
structure Parts.Sound (parts : Parts) : Prop where
  nonempty : parts.operators ≠ []
  tools_nodup : (parts.tools.map (·.id)).Nodup
  names_nodup : (parts.operators.map (·.name)).Nodup
  tools_known : ∀ op ∈ parts.operators, ∀ tool ∈ op.tools, tool ∈ parts.tools.map (·.id)
  ends_known : ∀ e ∈ parts.edges,
    e.source ∈ parts.operators.map (·.name) ∧ e.target ∈ parts.operators.map (·.name)

theorem firstRepeated?_eq_none_iff (seen ids : List String) :
    firstRepeated? seen ids = none ↔ ids.Nodup ∧ ∀ id ∈ ids, id ∉ seen := by
  induction ids generalizing seen with
  | nil => simp [firstRepeated?]
  | cons id ids ih =>
    by_cases h : id ∈ seen
    · simp [firstRepeated?, h]
    · rw [firstRepeated?, if_neg (by simpa using h), ih, List.forall_mem_cons, List.nodup_cons]
      constructor
      · rintro ⟨hnd, hids⟩
        exact ⟨⟨fun hid ↦ hids id hid (by simp), hnd⟩, h,
          fun s hs hseen ↦ hids s hs (List.mem_cons_of_mem _ hseen)⟩
      · rintro ⟨⟨hid, hnd⟩, -, hids⟩
        refine ⟨hnd, fun s hs hseen ↦ ?_⟩
        rcases List.mem_cons.mp hseen with rfl | hseen
        · exact hid hs
        · exact hids s hs hseen

namespace Parts

theorem operatorFault?_eq_none_iff (toolIds seen : List String) (ops : List Operator) :
    operatorFault? toolIds seen ops = none ↔
      (ops.map (·.name)).Nodup ∧ (∀ op ∈ ops, op.name ∉ seen) ∧
        ∀ op ∈ ops, ∀ tool ∈ op.tools, tool ∈ toolIds := by
  induction ops generalizing seen with
  | nil => simp [operatorFault?]
  | cons op ops ih =>
    by_cases h : op.name ∈ seen
    · simp [operatorFault?, h]
    · cases ht : op.tools.find? (!toolIds.contains ·) with
      | some tool =>
        have hm := List.mem_of_find?_eq_some ht
        have hn : tool ∉ toolIds := by simpa using List.find?_some ht
        simp only [operatorFault?, List.contains_iff_mem, h, if_false, ht, reduceCtorEq, false_iff,
          not_and]
        exact fun _ _ hall ↦ hn (hall op (by simp) tool hm)
      | none =>
        have hall : ∀ tool ∈ op.tools, tool ∈ toolIds := by simpa using ht
        rw [operatorFault?, if_neg (by simpa using h), ht, List.forall_mem_cons,
          List.forall_mem_cons, List.map_cons, List.nodup_cons]
        dsimp only
        rw [ih]
        constructor
        · rintro ⟨hnd, hseen, htools⟩
          refine ⟨⟨fun hmem ↦ ?_, hnd⟩, ⟨h, fun p hp hs ↦ ?_⟩, hall, htools⟩
          · obtain ⟨p, hp, hname⟩ := List.mem_map.mp hmem
            exact hseen p hp (by simp [hname])
          · exact hseen p hp (List.mem_cons_of_mem _ hs)
        · rintro ⟨⟨hname, hnd⟩, ⟨-, hseen⟩, -, htools⟩
          refine ⟨hnd, fun p hp hs ↦ ?_, htools⟩
          rcases List.mem_cons.mp hs with he | hs
          · exact hname (he ▸ List.mem_map_of_mem hp)
          · exact hseen p hp hs

theorem fault?_eq_none_iff (parts : Parts) : parts.fault? = none ↔ parts.Sound := by
  have hends : (parts.edges.flatMap fun e ↦ [e.source, e.target]).find?
      (!(parts.operators.map (·.name)).contains ·) = none ↔
      ∀ e ∈ parts.edges,
        e.source ∈ parts.operators.map (·.name) ∧ e.target ∈ parts.operators.map (·.name) := by
    simp only [List.find?_eq_none, List.mem_flatMap, List.mem_cons, List.not_mem_nil, or_false,
      Bool.not_eq_true', Bool.not_eq_false, List.contains_iff_mem]
    constructor
    · exact fun h e he ↦ ⟨h _ ⟨e, he, .inl rfl⟩, h _ ⟨e, he, .inr rfl⟩⟩
    · rintro h s ⟨e, he, rfl | rfl⟩
      · exact (h e he).1
      · exact (h e he).2
  by_cases hempty : parts.operators = []
  · simp only [fault?, hempty, List.isEmpty_nil, if_true, reduceCtorEq, false_iff]
    exact fun h ↦ h.nonempty hempty
  · simp only [fault?, List.isEmpty_iff, hempty, if_false, Option.orElse_eq_none,
      Option.map_eq_none_iff, firstRepeated?_eq_none_iff, operatorFault?_eq_none_iff, hends]
    constructor
    · rintro ⟨⟨htools, -⟩, ⟨hnames, -, hknown⟩, he⟩
      exact ⟨hempty, htools, hnames, hknown, he⟩
    · intro h
      exact ⟨⟨h.tools_nodup, by simp⟩, ⟨h.names_nodup, by simp, h.tools_known⟩, h.ends_known⟩

end Parts

namespace Blueprint

theorem parts_sound (blueprint : Blueprint) : blueprint.parts.Sound :=
  (Parts.fault?_eq_none_iff _).mp blueprint.sound

theorem ofParts_of_sound {parts : Parts} (h : parts.Sound) :
    ofParts parts = .ok ⟨parts, (Parts.fault?_eq_none_iff parts).mpr h⟩ := by
  have hnone := (Parts.fault?_eq_none_iff parts).mpr h
  unfold ofParts
  split
  · rfl
  · simp_all

theorem parts_of_ofParts {parts : Parts} {blueprint : Blueprint}
    (h : ofParts parts = .ok blueprint) : blueprint.parts = parts := by
  unfold ofParts at h
  split at h
  · obtain rfl := Except.ok.inj h
    rfl
  · cases h

theorem hasTool_iff (blueprint : Blueprint) (id : String) :
    blueprint.hasTool id = true ↔ id ∈ blueprint.parts.tools.map (·.id) := by
  simp [hasTool]

end Blueprint

theorem chain_ends {ops : List Operator} {e : Edge} (he : e ∈ chain ops) :
    e.source ∈ ops.map (·.name) ∧ e.target ∈ ops.map (·.name) := by
  induction ops using chain.induct with
  | case1 a b rest ih =>
    rw [chain, List.mem_cons] at he
    rcases he with rfl | he
    · simp
    · have h := ih he
      simp only [List.map_cons, List.mem_cons] at h ⊢
      exact ⟨.inr h.1, .inr h.2⟩
  | case2 ops h => simp [chain] at he

theorem wire_ends {mode : Topology} {ops : List Operator} {e : Edge} (he : e ∈ wire mode ops) :
    e.source ∈ ops.map (·.name) ∧ e.target ∈ ops.map (·.name) := by
  unfold wire at he
  split at he
  · next first middle last rest =>
    have hsink : (middle :: last :: rest).getLastD last ∈ middle :: last :: rest := by
      rw [List.getLastD_eq_getLast?, List.getLast?_eq_some_getLast (List.cons_ne_nil _ _)]
      exact List.getLast_mem (List.cons_ne_nil _ _)
    obtain ⟨op, hop, he⟩ := List.mem_flatMap.mp he
    have hop' := List.dropLast_subset _ hop
    simp only [List.mem_cons, List.not_mem_nil, or_false] at he
    rcases he with rfl | rfl
    · exact ⟨by simp, List.mem_map_of_mem (List.mem_cons_of_mem _ hop')⟩
    · exact ⟨List.mem_map_of_mem (List.mem_cons_of_mem _ hop'),
        List.mem_map_of_mem (List.mem_cons_of_mem _ hsink)⟩
  · exact chain_ends he

theorem chain_congr {ops ops' : List Operator} (h : ops.map (·.name) = ops'.map (·.name)) :
    chain ops = chain ops' := by
  induction ops using chain.induct generalizing ops' with
  | case1 a b rest ih =>
    match ops' with
    | [] | [_] => simp at h
    | a' :: b' :: rest' =>
      obtain ⟨ha, h⟩ := List.cons.inj h
      have hb := (List.cons.inj h).1
      dsimp only at ha hb
      rw [chain, chain, ih h, ha, hb]
  | case2 ops hfew =>
    match ops, ops' with
    | [], [] | [_], [_] => rfl
    | [], _ :: _ | [_], [] | [_], _ :: _ :: _ => simp at h
    | a :: b :: rest, _ => exact absurd rfl (hfew a b rest)

theorem wire_router (first middle last : Operator) (rest : List Operator) :
    wire .routerParallel (first :: middle :: last :: rest) =
      let others := (middle :: last :: rest).map (·.name)
      others.dropLast.flatMap fun name ↦
        [⟨first.name, name⟩, ⟨name, others.getLastD last.name⟩] := by
  simp only [wire, ← List.map_dropLast, List.flatMap_map, List.getLastD_eq_getLast?,
    List.getLast?_map, Option.getD_map]

theorem wire_congr {ops ops' : List Operator} (h : ops.map (·.name) = ops'.map (·.name))
    (mode : Topology) : wire mode ops = wire mode ops' := by
  cases mode with
  | linear => exact chain_congr h
  | plannerWorkerReviewer => exact chain_congr h
  | routerParallel =>
    match ops, ops' with
    | [], [] | [_], [_] => rfl
    | [_, _], [_, _] => exact chain_congr h
    | first :: middle :: last :: rest, first' :: middle' :: last' :: rest' =>
      obtain ⟨hfirst, hothers⟩ := List.cons.inj h
      have hlast := (List.cons.inj (List.cons.inj hothers).2).1
      dsimp only at hfirst hlast
      rw [wire_router, wire_router, hothers, hfirst, hlast]
    | [], _ :: _ | [_], [] | [_], _ :: _ :: _ | [_, _], [] | [_, _], [_]
    | [_, _], _ :: _ :: _ :: _ | _ :: _ :: _ :: _, [] | _ :: _ :: _ :: _, [_]
    | _ :: _ :: _ :: _, [_, _] => simp at h

namespace Topology

theorem operators_ne_nil (mode : Topology) (tools : List String) : mode.operators tools ≠ [] := by
  cases mode <;> simp [operators]

theorem operators_names_nodup (mode : Topology) (tools : List String) :
    ((mode.operators tools).map (·.name)).Nodup := by
  cases mode <;> simp [operators]

theorem tools_of_mem_operators {mode : Topology} {tools : List String} {op : Operator}
    (h : op ∈ mode.operators tools) : op.tools = tools := by
  cases mode <;> simp only [operators, List.mem_cons, List.not_mem_nil, or_false] at h
  · rw [h]
  · rcases h with rfl | rfl | rfl <;> rfl
  · rcases h with rfl | rfl | rfl | rfl <;> rfl

end Topology

end WorkflowSearch
