import Mathlib.Data.List.Nodup
import Mathlib.Logic.Relation
import Mathlib.Tactic.Common
import WorkflowSearch.Proofs.Blueprint.Soundness
import WorkflowSearch.Proofs.Lists

namespace WorkflowSearch

def Leads (edges : List Edge) (source target : String) : Prop :=
  ⟨source, target⟩ ∈ edges

/-- Wires that lead from names to later ones, into all but the first and out of all but the last. -/
structure Spans (names : List String) (edges : List Edge) : Prop where
  forward : ∀ e ∈ edges, ∃ i j : ℕ, i < j ∧ names[i]? = some e.source ∧ names[j]? = some e.target
  entered : ∀ (i : ℕ) name, names[i + 1]? = some name → ∃ source, Leads edges source name
  left : ∀ (i : ℕ) name, i + 1 < names.length → names[i]? = some name →
    ∃ target, Leads edges name target

theorem mem_chain_iff {ops : List Operator} {e : Edge} :
    e ∈ chain ops ↔ ∃ i, (ops.map (·.name))[i]? = some e.source ∧
      (ops.map (·.name))[i + 1]? = some e.target := by
  induction ops using chain.induct with
  | case1 a b rest ih =>
    rw [chain, List.mem_cons, ih]
    constructor
    · rintro (rfl | ⟨i, hsource, htarget⟩)
      · exact ⟨0, rfl, rfl⟩
      · exact ⟨i + 1, hsource, htarget⟩
    · rintro ⟨i, hsource, htarget⟩
      cases i with
      | zero =>
        left
        obtain ⟨source, target⟩ := e
        obtain rfl : a.name = source := Option.some.inj hsource
        obtain rfl : b.name = target := Option.some.inj htarget
        rfl
      | succ i => exact .inr ⟨i, hsource, htarget⟩
  | case2 ops hfew =>
    obtain _ | ⟨a, _ | ⟨b, rest⟩⟩ := ops
    · simp [chain]
    · simp [chain]
    · exact absurd rfl (hfew a b rest)

theorem length_chain (ops : List Operator) : (chain ops).length = ops.length - 1 := by
  induction ops using chain.induct with
  | case1 a b rest ih => simp [chain, ih]
  | case2 ops hfew =>
    obtain _ | ⟨a, _ | ⟨b, rest⟩⟩ := ops
    · rfl
    · rfl
    · exact absurd rfl (hfew a b rest)

theorem spans_chain (ops : List Operator) : Spans (ops.map (·.name)) (chain ops) := by
  refine ⟨fun e he ↦ ?_, fun i name hname ↦ ?_, fun i name hi hname ↦ ?_⟩
  · obtain ⟨i, hsource, htarget⟩ := mem_chain_iff.mp he
    exact ⟨i, i + 1, i.lt_succ_self, hsource, htarget⟩
  · have hlt := (List.getElem?_eq_some_iff.mp hname).1
    have hbefore := List.getElem?_eq_getElem (Nat.lt_of_succ_lt hlt)
    exact ⟨_, mem_chain_iff.mpr ⟨i, hbefore, hname⟩⟩
  · exact ⟨_, mem_chain_iff.mpr ⟨i, hname, List.getElem?_eq_getElem hi⟩⟩

def fan (first sink : Operator) (branches : List Operator) : List Edge :=
  branches.flatMap fun op ↦ [⟨first.name, op.name⟩, ⟨op.name, sink.name⟩]

theorem mem_fan_iff {first sink : Operator} {branches : List Operator} {e : Edge} :
    e ∈ fan first sink branches ↔
      ∃ op ∈ branches, e = ⟨first.name, op.name⟩ ∨ e = ⟨op.name, sink.name⟩ := by
  simp [fan]

theorem length_fan (first sink : Operator) (branches : List Operator) :
    (fan first sink branches).length = 2 * branches.length := by
  simp [fan, Nat.mul_comm]

theorem spans_fan (first sink : Operator) {branches : List Operator} (h : branches ≠ []) :
    Spans ((first :: (branches ++ [sink])).map (·.name)) (fan first sink branches) := by
  obtain ⟨branch, hbranch⟩ := List.exists_mem_of_ne_nil branches h
  rw [List.map_cons, List.map_append, List.map_singleton]
  have hlast : (branches.map (·.name) ++ [sink.name])[branches.length]? = some sink.name := by
    simp
  refine ⟨fun e he ↦ ?_, fun i name hname ↦ ?_, fun i name hi hname ↦ ?_⟩
  · obtain ⟨op, hop, he⟩ := mem_fan_iff.mp he
    obtain ⟨i, hi⟩ := List.getElem?_of_mem hop
    have hlt := (List.getElem?_eq_some_iff.mp hi).1
    have hname : (branches.map (·.name) ++ [sink.name])[i]? = some op.name := by
      rw [List.getElem?_append_left (by rwa [List.length_map]), List.getElem?_map, hi,
        Option.map_some]
    obtain rfl | rfl := he
    · exact ⟨0, i + 1, i.succ_pos, rfl, hname⟩
    · exact ⟨i + 1, branches.length + 1, Nat.succ_lt_succ hlt, hname, hlast⟩
  · rw [List.getElem?_cons_succ] at hname
    obtain ⟨-, hname⟩ | ⟨-, rfl⟩ := getElem?_concat_cases hname
    · obtain ⟨op, hop, rfl⟩ := List.mem_map.mp (List.mem_of_getElem? hname)
      exact ⟨first.name, mem_fan_iff.mpr ⟨op, hop, .inl rfl⟩⟩
    · exact ⟨branch.name, mem_fan_iff.mpr ⟨branch, hbranch, .inr rfl⟩⟩
  · cases i with
    | zero =>
      obtain rfl := Option.some.inj hname
      exact ⟨branch.name, mem_fan_iff.mpr ⟨branch, hbranch, .inl rfl⟩⟩
    | succ i =>
      have hlt : i < (branches.map (·.name)).length := by simpa using hi
      rw [List.getElem?_cons_succ, List.getElem?_append_left hlt] at hname
      obtain ⟨op, hop, rfl⟩ := List.mem_map.mp (List.mem_of_getElem? hname)
      exact ⟨sink.name, mem_fan_iff.mpr ⟨op, hop, .inr rfl⟩⟩

theorem wire_fan (first sink : Operator) {branches : List Operator} (h : branches ≠ []) :
    wire .routerParallel (first :: (branches ++ [sink])) = fan first sink branches := by
  match branches with
  | branch :: tail =>
    obtain ⟨last, rest, hrest⟩ : ∃ last rest, tail ++ [sink] = last :: rest :=
      List.exists_cons_of_ne_nil (by simp)
    have hothers : branch :: last :: rest = branch :: tail ++ [sink] := by
      rw [List.cons_append, hrest]
    rw [List.cons_append, hrest]
    simp only [wire]
    rw [hothers, List.dropLast_concat, List.getLastD_concat, fan]

theorem wire_cases (mode : Topology) (ops : List Operator) :
    (¬ (mode = .routerParallel ∧ 3 ≤ ops.length) ∧ wire mode ops = chain ops) ∨
      mode = .routerParallel ∧ ∃ first branches sink, branches ≠ [] ∧
        ops = first :: (branches ++ [sink]) ∧ wire mode ops = fan first sink branches := by
  match mode, ops with
  | .linear, _ | .plannerWorkerReviewer, _ => exact .inl ⟨by simp, rfl⟩
  | .routerParallel, [] | .routerParallel, [_] | .routerParallel, [_, _] =>
    exact .inl ⟨by simp, rfl⟩
  | .routerParallel, first :: middle :: last :: rest =>
    obtain ⟨branches, sink, hothers⟩ : ∃ branches sink, last :: rest = branches ++ [sink] :=
      ⟨_, _, (List.dropLast_concat_getLast (List.cons_ne_nil last rest)).symm⟩
    refine .inr ⟨rfl, first, middle :: branches, sink, List.cons_ne_nil _ _, ?_, ?_⟩
    · rw [hothers, List.cons_append]
    · rw [hothers, ← List.cons_append, wire_fan first sink (List.cons_ne_nil _ _)]

theorem spans_wire (mode : Topology) (ops : List Operator) :
    Spans (ops.map (·.name)) (wire mode ops) := by
  obtain ⟨-, hwire⟩ | ⟨-, first, branches, sink, hbranches, rfl, hwire⟩ := wire_cases mode ops
  · exact hwire ▸ spans_chain ops
  · exact hwire ▸ spans_fan first sink hbranches

theorem length_wire (mode : Topology) (ops : List Operator) :
    (wire mode ops).length =
      if mode = .routerParallel ∧ 3 ≤ ops.length then 2 * (ops.length - 2) else ops.length - 1 := by
  obtain ⟨hchain, hwire⟩ | ⟨hmode, first, branches, sink, hbranches, rfl, hwire⟩ :=
    wire_cases mode ops
  · rw [hwire, if_neg hchain, length_chain]
  · have hsome := List.length_pos_of_ne_nil hbranches
    rw [hwire, length_fan, if_pos ⟨hmode, by simpa using Nat.succ_le_of_lt hsome⟩]
    simp

namespace Spans

variable {names : List String} {edges : List Edge} (h : Spans names edges) (hnames : names.Nodup)
include h hnames

theorem lt_of_leads {source target : String} (hleads : Leads edges source target) {i j : ℕ}
    (hi : names[i]? = some source) (hj : names[j]? = some target) : i < j := by
  obtain ⟨i', j', hlt, hi', hj'⟩ := h.forward _ hleads
  have hlt_i := (List.getElem?_eq_some_iff.mp hi).1
  have hlt_j := (List.getElem?_eq_some_iff.mp hj).1
  obtain rfl : i = i' := (List.getElem?_inj hlt_i hnames).mp (hi.trans hi'.symm)
  obtain rfl : j = j' := (List.getElem?_inj hlt_j hnames).mp (hj.trans hj'.symm)
  exact hlt

theorem lt_of_transGen {source target : String}
    (hpath : Relation.TransGen (Leads edges) source target) {i j : ℕ}
    (hi : names[i]? = some source) (hj : names[j]? = some target) : i < j := by
  induction hpath generalizing j with
  | single hleads => exact h.lt_of_leads hnames hleads hi hj
  | @tail middle target _ hleads ih =>
    obtain ⟨k, -, -, hk, -⟩ := h.forward _ hleads
    exact Nat.lt_trans (ih hk) (h.lt_of_leads hnames hleads hk hj)

theorem acyclic (name : String) : ¬ Relation.TransGen (Leads edges) name name := by
  intro hcycle
  obtain ⟨next, hleads, -⟩ := Relation.TransGen.head'_iff.mp hcycle
  obtain ⟨i, -, -, hi, -⟩ := h.forward _ hleads
  exact Nat.lt_irrefl i (h.lt_of_transGen hnames hcycle hi hi)

theorem exists_leads_into_iff {i : ℕ} {name : String} (hi : names[i]? = some name) :
    (∃ source, Leads edges source name) ↔ i ≠ 0 := by
  constructor
  · rintro ⟨source, hleads⟩
    obtain ⟨k, -, -, hk, -⟩ := h.forward _ hleads
    exact Nat.ne_zero_of_lt (h.lt_of_leads hnames hleads hk hi)
  · intro hne
    obtain ⟨k, rfl⟩ := Nat.exists_eq_add_one_of_ne_zero hne
    exact h.entered k name hi

theorem exists_leads_out_iff {i : ℕ} {name : String} (hi : names[i]? = some name) :
    (∃ target, Leads edges name target) ↔ i + 1 ≠ names.length := by
  have hlt := (List.getElem?_eq_some_iff.mp hi).1
  constructor
  · rintro ⟨target, hleads⟩
    obtain ⟨-, k, -, -, hk⟩ := h.forward _ hleads
    have hless := h.lt_of_leads hnames hleads hi hk
    have hlt' := (List.getElem?_eq_some_iff.mp hk).1
    omega
  · exact fun hne ↦ h.left i name (by omega) hi

theorem reachable_from_first {first : String} (hfirst : names[0]? = some first) {i : ℕ}
    {name : String} (hi : names[i]? = some name) :
    Relation.ReflTransGen (Leads edges) first name := by
  -- By induction on the place: the wire into a name comes from one at a smaller place.
  induction i using Nat.strongRecOn generalizing name with
  | ind i ih =>
    cases i with
    | zero =>
      obtain rfl := Option.some.inj (hfirst.symm.trans hi)
      exact .refl
    | succ i =>
      obtain ⟨source, hleads⟩ := h.entered i name hi
      obtain ⟨k, -, -, hk, -⟩ := h.forward _ hleads
      exact (ih k (h.lt_of_leads hnames hleads hk hi) hk).tail hleads

theorem reaches_last {last : String} {i : ℕ} {name : String}
    (hlast : names[names.length - 1]? = some last) (hi : names[i]? = some name) :
    Relation.ReflTransGen (Leads edges) name last := by
  have hlt := (List.getElem?_eq_some_iff.mp hi).1
  -- By induction on the number of names behind: the wire out of a name goes to a greater place.
  induction hbehind : names.length - i using Nat.strongRecOn generalizing i name with
  | ind behind ih =>
    obtain hmore | hend := Nat.lt_or_ge (i + 1) names.length
    · obtain ⟨target, hleads⟩ := h.left i name hmore hi
      obtain ⟨-, k, -, -, hk⟩ := h.forward _ hleads
      have hless := h.lt_of_leads hnames hleads hi hk
      have hlt' := (List.getElem?_eq_some_iff.mp hk).1
      exact (ih (names.length - k) (by omega) hk hlt' rfl).head hleads
    · obtain rfl : i = names.length - 1 := by omega
      obtain rfl := Option.some.inj (hlast.symm.trans hi)
      exact .refl

end Spans

/-- The wires of operators with distinct names, in every topology mode: each leads from an operator
to a later one, so there are no cycles. The first operator alone has no wire into it, and the last
alone none out of it; all are reachable from the first and reach the last. There is one wire fewer
than operators, but a router with branches has two for each of them. -/
theorem wire_single_source_sink (mode : Topology) {ops : List Operator}
    (h : (ops.map (·.name)).Nodup) :
    let names := ops.map (·.name)
    let edges := wire mode ops
    (∀ e ∈ edges, ∃ i j : ℕ, i < j ∧ names[i]? = some e.source ∧ names[j]? = some e.target) ∧
      (∀ name, ¬ Relation.TransGen (Leads edges) name name) ∧
      (∀ (i : ℕ) name, names[i]? = some name →
        ((∃ source, Leads edges source name) ↔ i ≠ 0) ∧
        ((∃ target, Leads edges name target) ↔ i + 1 ≠ names.length)) ∧
      (∀ first ∈ names.head?, ∀ last ∈ names.getLast?, ∀ name ∈ names,
        Relation.ReflTransGen (Leads edges) first name ∧
        Relation.ReflTransGen (Leads edges) name last) ∧
      edges.length =
        if mode = .routerParallel ∧ 3 ≤ ops.length then 2 * (ops.length - 2) else ops.length - 1 := by
  intro names edges
  have hspans : Spans names edges := spans_wire mode ops
  refine ⟨hspans.forward, hspans.acyclic h, fun i name hi ↦ ?_, ?_, length_wire mode ops⟩
  · exact ⟨hspans.exists_leads_into_iff h hi, hspans.exists_leads_out_iff h hi⟩
  · intro first hfirst last hlast name hname
    obtain ⟨i, hi⟩ := List.getElem?_of_mem hname
    rw [List.head?_eq_getElem?] at hfirst
    rw [List.getLast?_eq_getElem?] at hlast
    exact ⟨hspans.reachable_from_first h hfirst hi, hspans.reaches_last h hlast hi⟩

/-- A router with two branches. -/
theorem routerParallel_single_source_sink :
    let ops := Topology.routerParallel.operators []
    let edges := wire .routerParallel ops
    (ops.map (·.name)).Nodup ∧ ¬ Relation.TransGen (Leads edges) "router" "router" ∧
      Relation.ReflTransGen (Leads edges) "router" "analysis_branch" ∧
      Relation.ReflTransGen (Leads edges) "analysis_branch" "synthesizer" ∧ edges.length = 4 := by
  intro ops edges
  have hnames := Topology.operators_names_nodup .routerParallel []
  obtain ⟨-, hacyclic, -, hpaths, hlength⟩ := wire_single_source_sink .routerParallel hnames
  obtain ⟨hinto, hout⟩ := hpaths "router" rfl "synthesizer" rfl "analysis_branch" (by decide)
  exact ⟨hnames, hacyclic "router", hinto, hout, hlength⟩

end WorkflowSearch
