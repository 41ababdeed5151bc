import WorkflowSearch.Proofs.Json.Spelling

namespace WorkflowSearch.Json

variable {β γ : Type}

/-- Every spelling of the JSON is read as the value. -/
def Reads (decode : Json → Option β) (standard : Json) (b : β) : Prop :=
  ∀ j, Spells standard j → decode j = some b

theorem reads_str (s : String) : Reads asStr? (.str s) s := by
  intro j hj
  cases hj
  rfl

theorem reads_name {all : List β} {name : β → String} (hnames : (all.map name).Nodup) {b : β}
    (hb : b ∈ all) : Reads (asName? all name) (.str (name b)) b := by
  intro j hj
  cases hj
  exact find?_key_eq_some hnames hb

theorem reads_list {decode : Json → Option β} {encode : β → Json} {items : List β}
    (h : ∀ b ∈ items, Reads decode (encode b) b) :
    Reads (asList? decode) (.arr (items.map encode)) items := by
  intro j hj
  cases hj with
  | @arr _ spelled each =>
    rw [List.forall₂_map_left_iff] at each
    rw [asList?]
    induction each with
    | nil => rfl
    | @cons b j items spelled hspells _ ih =>
      obtain ⟨hfirst, hrest⟩ := List.forall_mem_cons.mp h
      rw [List.mapM_cons, hfirst j hspells, ih hrest]
      rfl

theorem reads_strs (items : List String) : Reads (asList? asStr?) (.strs items) items :=
  reads_list fun s _ ↦ reads_str s

theorem reads_option (text : Option String) :
    Reads (asOption? asStr?) (Json.option .str text) text := by
  intro j hj
  cases text <;> cases hj <;> rfl

namespace RecordReader

variable {members : List (String × Json)} {name : String} {standard : Json}

theorem bind_of_run {reader : RecordReader β} {fields fields' : Fields} {b : β}
    (h : reader fields = some (b, fields')) (rest : β → RecordReader γ) :
    (reader >>= rest) fields = rest b fields' := by
  simp only [bind, StateT.bind, h, Option.bind_some]

theorem next_eq {j : Json} (h : members.filter (·.1 == name) = [(name, j)]) :
    next name (.named members) = some (some j, .named members) := by
  simp only [next, h]

theorem required_bind {decode : Json → Option β} {b : β} (hfield : HasField members name standard)
    (hreads : Reads decode standard b) (rest : β → RecordReader γ) :
    (required name decode >>= rest) (.named members) = rest b (.named members) := by
  obtain ⟨j, hmember, hspells⟩ := hfield
  refine bind_of_run ?_ rest
  rw [required, bind_of_run (next_eq hmember)]
  dsimp only
  rw [hreads j hspells]
  rfl

theorem optional_bind {decode : Json → Option β} {value : Option β}
    (hfield : HasField members name standard) (hreads : Reads (asOption? decode) standard value)
    (rest : Option β → RecordReader γ) :
    (optional name decode >>= rest) (.named members) = rest value (.named members) := by
  obtain ⟨j, hmember, hspells⟩ := hfield
  have hget : (get : RecordReader Fields) (.named members) = some (.named members, .named members) :=
    rfl
  refine bind_of_run ?_ rest
  rw [optional, bind_of_run hget, bind_of_run (next_eq hmember)]
  dsimp only
  rw [hreads j hspells]
  rfl

end RecordReader

theorem reads_record {reader : RecordReader β} {fields : List (String × Json)} {b : β}
    (h : ∀ members, fields.Forall (fun m ↦ HasField members m.1 m.2) →
      reader (.named members) = some (b, .named members)) :
    Reads (asRecord? reader) (.obj fields) b := by
  intro j hj
  obtain ⟨members, rfl, hfields⟩ := hj.exists_members
  rw [asRecord?, h members (List.forall_iff_forall_mem.mpr hfields), Option.map_some]

section Meet

/-- The values have a spelling in common. -/
def Meet (standard standard' : Json) : Prop :=
  ∃ j, Spells standard j ∧ Spells standard' j

variable {standard standard' : Json}

theorem Meet.eq_of_reads {decode : Json → Option β} {b b' : β} (h : Meet standard standard')
    (hreads : Reads decode standard b) (hreads' : Reads decode standard' b') : b = b' := by
  obtain ⟨j, hj, hj'⟩ := h
  exact Option.some.inj ((hreads j hj).symm.trans (hreads' j hj'))

theorem Meet.eq_of_list {encode : β → Json} (hencode : ∀ b b', Meet (encode b) (encode b') → b = b')
    {items items' : List β} (h : Meet (.arr (items.map encode)) (.arr (items'.map encode))) :
    items = items' := by
  obtain ⟨j, hj, hj'⟩ := h
  cases hj with
  | @arr _ spelled each =>
    cases hj' with
    | arr each' =>
      rw [List.forall₂_map_left_iff] at each each'
      induction each generalizing items' with
      | nil =>
        cases each'
        rfl
      | cons hfirst _ ih =>
        cases each' with
        | cons hfirst' hrest' =>
          exact congrArg₂ List.cons (hencode _ _ ⟨_, hfirst, hfirst'⟩) (ih hrest')

theorem HasField.meet {members : List (String × Json)} {name : String}
    (h : HasField members name standard) (h' : HasField members name standard') :
    Meet standard standard' := by
  obtain ⟨j, hj, hspells⟩ := h
  obtain ⟨j', hj', hspells'⟩ := h'
  obtain ⟨⟩ := hj.symm.trans hj'
  exact ⟨j, hspells, hspells'⟩

theorem Meet.fields {fields fields' : List (String × Json)} (h : Meet (.obj fields) (.obj fields'))
    (hnames : fields.map (·.1) = fields'.map (·.1)) :
    (fields.zip fields').Forall fun pair ↦ Meet pair.1.2 pair.2.2 := by
  obtain ⟨j, hj, hj'⟩ := h
  obtain ⟨members, rfl, hfields⟩ := hj.exists_members
  obtain ⟨_, ⟨⟩, hfields'⟩ := hj'.exists_members
  rw [List.forall_iff_forall_mem]
  rintro ⟨m, m'⟩ hpair
  obtain ⟨i, hi⟩ := List.getElem?_of_mem hpair
  obtain ⟨hm, hm'⟩ := List.getElem?_zip_eq_some.mp hi
  have hname : m.1 = m'.1 := by
    simpa [hm, hm'] using congrArg (·[i]?) hnames
  have hfield' := hfields' m' (List.mem_of_getElem? hm')
  rw [← hname] at hfield'
  exact (hfields m (List.mem_of_getElem? hm)).meet hfield'

end Meet

end WorkflowSearch.Json
