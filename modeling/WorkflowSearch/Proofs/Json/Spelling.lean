import Mathlib.Data.List.Forall2
import Mathlib.Data.List.Nodup
import WorkflowSearch.Json.Decode
import WorkflowSearch.Proofs.Lists

namespace WorkflowSearch.Json

/-- No object in the value has two members of one name. -/
inductive Distinct : Json → Prop
  | null : Distinct .null
  | bool (value : Bool) : Distinct (.bool value)
  | int (value : Int) : Distinct (.int value)
  | float (value : Double) : Distinct (.float value)
  | str (value : String) : Distinct (.str value)
  | arr {items : List Json} (each : ∀ j ∈ items, Distinct j) : Distinct (.arr items)
  | obj {members : List (String × Json)} (names : (members.map (·.1)).Nodup)
      (each : ∀ m ∈ members, Distinct m.2) : Distinct (.obj members)

theorem distinct_arr_map {β : Type} {encode : β → Json} (h : ∀ b, (encode b).Distinct)
    (items : List β) : (arr (items.map encode)).Distinct :=
  .arr (List.forall_mem_map.mpr fun b _ ↦ h b)

theorem distinct_strs (items : List String) : (strs items).Distinct :=
  distinct_arr_map .str items

theorem distinct_option (text : Option String) : (Json.option .str text).Distinct := by
  cases text with
  | none => exact .null
  | some s => exact .str s

/-- The second value spells the first: every object has the same members, each of them once, in some
order and maybe among others. -/
inductive Spells : Json → Json → Prop
  | null : Spells .null .null
  | bool (value : Bool) : Spells (.bool value) (.bool value)
  | int (value : Int) : Spells (.int value) (.int value)
  | float (value : Double) : Spells (.float value) (.float value)
  | str (value : String) : Spells (.str value) (.str value)
  | arr {items items' : List Json} (each : List.Forall₂ Spells items items') :
      Spells (.arr items) (.arr items')
  | obj {fields members : List (String × Json)} (value : String → Json)
      (once : ∀ m ∈ fields, members.filter (·.1 == m.1) = [(m.1, value m.1)])
      (each : ∀ m ∈ fields, Spells m.2 (value m.1)) : Spells (.obj fields) (.obj members)

def HasField (members : List (String × Json)) (name : String) (value : Json) : Prop :=
  ∃ j, members.filter (·.1 == name) = [(name, j)] ∧ Spells value j

theorem Spells.exists_members {fields : List (String × Json)} {j : Json}
    (h : Spells (.obj fields) j) :
    ∃ members, j = .obj members ∧ ∀ m ∈ fields, HasField members m.1 m.2 := by
  cases h with
  | obj value once each => exact ⟨_, rfl, fun m hm ↦ ⟨value m.1, once m hm, each m hm⟩⟩

theorem spells_obj_of_perm {fields members : List (String × Json)} (change : Json → Json)
    (hnames : (fields.map (·.1)).Nodup)
    (hperm : members.Perm (fields.map fun m ↦ (m.1, change m.2)))
    (heach : ∀ m ∈ fields, Spells m.2 (change m.2)) : Spells (.obj fields) (.obj members) := by
  have hnames' : ((fields.map fun m ↦ (m.1, change m.2)).map (·.1)).Nodup := by
    simpa [Function.comp_def] using hnames
  let value (name : String) : Json := ((fields.find? (·.1 == name)).map (change ·.2)).getD .null
  have hvalue (m : String × Json) (hm : m ∈ fields) : value m.1 = change m.2 := by
    simp only [value, find?_key_eq_some hnames hm, Option.map_some, Option.getD_some]
  refine .obj value (fun m hm ↦ ?_) fun m hm ↦ ?_
  · have honly := filter_key_eq_singleton hnames' (List.mem_map_of_mem hm)
    have hfilter := hperm.filter fun c ↦ decide (c.1 = m.1)
    rw [honly, List.perm_singleton] at hfilter
    simp only [hvalue m hm, Bool.beq_eq_decide_eq, hfilter]
  · rw [hvalue m hm]
    exact heach m hm

theorem Distinct.spells_self {j : Json} (h : Distinct j) : Spells j j := by
  induction h with
  | null => exact .null
  | bool b => exact .bool b
  | int n => exact .int n
  | float x => exact .float x
  | str s => exact .str s
  | arr _ ih => exact .arr (List.forall₂_same.mpr ih)
  | obj names _ ih => exact spells_obj_of_perm id names (by simp) ih

section Canonical

theorem canonicalItems_eq_map (items : List Json) : canonicalItems items = items.map canonical := by
  induction items with
  | nil => rfl
  | cons j js ih => rw [canonicalItems, ih, List.map_cons]

theorem canonicalMembers_eq_map (members : List (String × Json)) :
    canonicalMembers members = members.map fun m ↦ (m.1, m.2.canonical) := by
  induction members with
  | nil => rfl
  | cons m members ih => rw [canonicalMembers, ih, List.map_cons]

theorem insertMember_perm {name : String} (value : Json) {members : List (String × Json)}
    (h : name ∉ members.map (·.1)) :
    (insertMember name value members).Perm ((name, value) :: members) := by
  induction members with
  | nil => exact .refl _
  | cons first rest ih =>
    obtain ⟨hfirst, hrest⟩ : name ≠ first.1 ∧ name ∉ rest.map (·.1) := by simpa using h
    rw [insertMember]
    cases hcompare : compare name first.1 with
    | lt => exact .refl _
    | eq => exact absurd (Std.LawfulEqCmp.eq_of_compare hcompare) hfirst
    | gt => exact ((ih hrest).cons first).trans (.swap _ _ _)

theorem foldl_insertMember_perm {sorted members : List (String × Json)}
    (h : ((sorted ++ members).map (·.1)).Nodup) :
    (members.foldl (fun sorted m ↦ insertMember m.1 m.2 sorted) sorted).Perm (sorted ++ members) := by
  induction members generalizing sorted with
  | nil => simp
  | cons m members ih =>
    have hmiddle : (sorted ++ m :: members).Perm (m :: sorted ++ members) := List.perm_middle
    have hnodup := (hmiddle.map (·.1)).nodup_iff.mp h
    have hnew : m.1 ∉ sorted.map (·.1) := by
      intro hmem
      rw [List.cons_append, List.map_cons, List.nodup_cons, List.map_append] at hnodup
      exact hnodup.1 (List.mem_append_left _ hmem)
    have hinsert := (insertMember_perm m.2 hnew).append_right members
    rw [List.foldl_cons]
    exact (ih ((hinsert.map (·.1)).nodup_iff.mpr hnodup)).trans (hinsert.trans hmiddle.symm)

theorem sortMembers_perm {members : List (String × Json)} (h : (members.map (·.1)).Nodup) :
    (sortMembers members).Perm members :=
  foldl_insertMember_perm (by rwa [List.nil_append])

theorem Distinct.spells_canonical {j : Json} (h : Distinct j) : Spells j j.canonical := by
  induction h with
  | null => exact .null
  | bool b => exact .bool b
  | int n => exact .int n
  | float x => exact .float x
  | str s => exact .str s
  | arr _ ih =>
    rw [canonical, canonicalItems_eq_map]
    exact .arr (List.forall₂_map_right_iff.mpr (List.forall₂_same.mpr ih))
  | obj names _ ih =>
    rw [canonical, canonicalMembers_eq_map]
    refine spells_obj_of_perm canonical names (sortMembers_perm ?_) ih
    simpa [Function.comp_def] using names

end Canonical

end WorkflowSearch.Json
