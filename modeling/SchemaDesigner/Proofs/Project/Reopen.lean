/-
Projects saved and opened again: nothing gets lost.

* `Schema.IsKeepable`: identities and names are distinct, columns are in normal form, and each
  reference leads to a table and a column with names;
* `resolveReferences_eq_self`: references that resolve by name are not mistaken for identities;
* `resolveReference_eq_self_of_ne`: neither are those that bear no identity, even if they dangle;
* `resolveReference_map`: only names and identities count for how references are resolved;
* `Project.ofText_toText`: a storable project is read back from its text;
* `Project.reopen_ofSchema`: the project of a schema is opened again as it was saved, and gives the
  schema back; so it is for each schema built from nothing.
-/
import SchemaDesigner.Proofs.Schema.Lasting
import SchemaDesigner.Proofs.Wire.Project

namespace SchemaDesigner

/-! ### Schemas that are kept -/

/-- Tables are told apart by identity and by name, their places are read back, their columns are in
normal form, and all references lead to tables and columns with names. -/
structure Schema.IsKeepable (s : Schema) : Prop where
  ids : (s.tables.map fun t => t.id).Nodup
  names : DistinctNames (s.tables.map fun t => t.name)
  places : ∀ t ∈ s.tables, t.position.IsReadBack
  columns : ∀ t ∈ s.tables, ∀ c ∈ t.columns, c.IsNormal
  references : ∀ t ∈ s.tables, ∀ c ∈ t.columns, ∀ r ∈ c.reference, r.LeadsToNamed s.tables

namespace Schema.IsKeepable

variable {s : Schema}

lemma closed (h : s.IsKeepable) : s.Closed :=
  fun t ht c hc r hr => (h.references t ht c hc r hr).resolves

lemma isStorable (h : s.IsKeepable) : ∀ t ∈ s.tables, t.IsStorable := fun t ht c hc =>
  ⟨h.columns t ht c hc, fun r hr => (h.references t ht c hc r hr).isStorable⟩

/-- A schema in which nothing dangles and nothing lacks a name is kept, if its places are. -/
lemma of_isLasting (hw : s.WellFormed) (hc : s.Closed) (hl : s.IsLasting)
    (hplace : ∀ t ∈ s.tables, t.position.IsReadBack) : s.IsKeepable where
  ids := hw.ids
  names := hw.distinct
  places := hplace
  columns t ht c hc := ((hl t ht).columns c hc).storable.toIsNormal
  references t ht c hmem r hr := hl.leadsToNamed (hc t ht c hmem r hr)

/-- A schema built from nothing is kept, if the columns that come with the commands are in normal
form. -/
lemma run_empty {commands : List (TableId × Command)} (hfresh : empty.DrawsFresh commands)
    (hcolumns : ∀ c ∈ commands, c.2.IsNormal)
    (hplace : ∀ t ∈ (empty.run commands).tables, t.position.IsReadBack) :
    (empty.run commands).IsKeepable := by
  have hboth : (empty.run commands).WellFormed ∧ (empty.run commands).Closed := by
    refine run_induction (P := fun s => s.WellFormed ∧ s.Closed) ?_ hfresh
      ⟨wellFormed_empty, fun _ ht => nomatch ht⟩
    rintro s fresh command s' ⟨hw, hc⟩ hnew happly
    exact ⟨hw.apply hnew happly, hc.apply hw happly⟩
  have hlasting : empty.IsLasting := fun _ ht => nomatch ht
  exact of_isLasting hboth.1 hboth.2 (hlasting.run hcolumns) hplace

end Schema.IsKeepable

/-! ### References that are left alone -/

section Resolve

variable {tables : List Table}

lemma Table.mapReferences_eq_self {f : Reference → Option Reference} {t : Table}
    (h : ∀ c ∈ t.columns, ∀ r, c.reference = some r → f r = some r) : t.mapReferences f = t := by
  have hcolumns : t.columns.map (fun c => c.modify (ColumnDef.mapReference f)) = t.columns := by
    refine (List.map_congr_left fun c hc => ?_).trans (List.map_id _)
    have hsame : c.reference.bind f = c.reference := by
      cases hr : c.reference with
      | none => rfl
      | some r => exact h c hc r hr
    rw [Column.modify, ColumnDef.mapReference, hsame]
    rfl
  rw [mapReferences, hcolumns]

/-- A reference that resolves by name is not taken for one by identity. -/
lemma resolveReference_eq_self {r : Reference} (hnames : DistinctNames (tables.map fun t => t.name))
    (h : r.Resolves tables) : resolveReference tables r = r := by
  obtain ⟨t, ht, hcolumn⟩ := h.exists_tableNamed? hnames
  have hname := namesMatch_symm (tableNamed?_eq_some ht).2
  have htarget : referencedTable? tables r = some t := by
    rw [referencedTable?, ht, Option.some_or]
  rw [resolveReference, htarget]
  dsimp only
  rw [if_pos hname, referencedColumn, if_pos hcolumn]

/-- A reference that bears no identity is not taken for one by identity, whether it resolves or
not. -/
lemma resolveReference_eq_self_of_ne {r : Reference} (htable : ∀ t ∈ tables, t.id.text ≠ r.table)
    (hcolumn : ∀ t ∈ tables, ∀ c ∈ t.columns, c.id.text ≠ r.column) :
    resolveReference tables r = r := by
  have hid : (tables.find? fun t => t.id.text == r.table) = none :=
    List.find?_eq_none.mpr fun t ht => by simpa using htable t ht
  rw [resolveReference, referencedTable?, hid, Option.or_none]
  cases htarget : tableNamed? tables r.table with
  | none => rfl
  | some target =>
    obtain ⟨hmem, hname⟩ := tableNamed?_eq_some htarget
    have hcolumnId : (target.columns.find? fun c => c.id.text == r.column) = none :=
      List.find?_eq_none.mpr fun c hc => by simpa using hcolumn target hmem c hc
    have hsame : referencedColumn target r.column = r.column := by
      rw [referencedColumn, hcolumnId]
      split_ifs <;> rfl
    dsimp only
    rw [if_pos (namesMatch_symm hname), hsame]

lemma resolveReferences_eq_self_of_forall
    (h : ∀ t ∈ tables, ∀ c ∈ t.columns, ∀ r ∈ c.reference, resolveReference tables r = r) :
    resolveReferences tables = tables := by
  refine (List.map_congr_left fun t ht => ?_).trans (List.map_id _)
  exact Table.mapReferences_eq_self fun c hc r hr => congrArg some (h t ht c hc r hr)

lemma resolveReferences_eq_self (hnames : DistinctNames (tables.map fun t => t.name))
    (h : ∀ t ∈ tables, t.RefersInto tables) : resolveReferences tables = tables :=
  resolveReferences_eq_self_of_forall fun t ht c hc r hr =>
    resolveReference_eq_self hnames (h t ht c hc r hr)

/-- Of tables with distinct identities, the one with an identity is the only one. -/
lemma find?_id_eq_some_iff (hids : (tables.map fun t => t.id).Nodup) {text : String} {t : Table} :
    tables.find? (fun t => t.id.text == text) = some t ↔ t ∈ tables ∧ t.id.text = text := by
  refine (find?_eq_some_iff_of_unique fun t ht u hu htext hutext => ?_).trans
    (and_congr_right fun _ => beq_iff_eq)
  have htextId := (beq_iff_eq.mp htext).trans (beq_iff_eq.mp hutext).symm
  exact List.inj_on_of_nodup_map hids ht hu (congrArg TableId.mk htextId)

/-- References are resolved alike by tables with the same names and identities. -/
lemma resolveReference_map {f : Table → Table} (hname : ∀ t, (f t).name = t.name)
    (hid : ∀ t, (f t).id = t.id)
    (hcolumn : ∀ t text, referencedColumn (f t) text = referencedColumn t text)
    (tables : List Table) : resolveReference (tables.map f) = resolveReference tables := by
  have htarget : ∀ r, referencedTable? (tables.map f) r = (referencedTable? tables r).map f := by
    intro r
    have hnames : (fun t => namesMatch t.name r.table) ∘ f = fun t => namesMatch t.name r.table :=
      funext fun t => by rw [Function.comp_apply, hname]
    have hids : (fun t => t.id.text == r.table) ∘ f = fun t => t.id.text == r.table :=
      funext fun t => by rw [Function.comp_apply, hid]
    rw [referencedTable?, referencedTable?, tableNamed?, tableNamed?, List.find?_map,
      List.find?_map, Option.map_or, hnames, hids]
  funext r
  rw [resolveReference, resolveReference, htarget]
  cases referencedTable? tables r with
  | none => rfl
  | some t =>
    rw [Option.map_some]
    dsimp only
    rw [hname, hcolumn]

end Resolve

/-! ### Projects -/

namespace Project

/-- A storable project is read back from its text, if its places and its time are read back. -/
theorem ofText_toText {p : Project} (later : Timestamp) (h : p.IsStorable) (hplace : p.IsPlaceable)
    (htime : Timestamp.ofText p.timestamp.text = .ok p.timestamp) :
    Project.ofText later p.toText = pure p := by
  rw [ofText, toText, Read.ofText_of_isWrittenAs (isWritable_toJson hplace) (by decide) .pretty]
  exact read_toJson later h htime

variable {s : Schema} {name : String} {time : Timestamp}

lemma tables_ofSchema : (ofSchema name time s).tables = s.tables := by
  obtain ⟨tables⟩ := s
  cases tables with
  | nil => rfl
  | cons t ts =>
    refine (List.map_map ..).trans ?_
    exact List.map_id _

/-- A schema whose references are left alone is what its project gives back. -/
lemma toSchema_ofSchema_of_resolved (h : resolveReferences s.tables = s.tables) :
    (ofSchema name time s).toSchema = s := by
  rw [toSchema, tables_ofSchema, h]

lemma toSchema_ofSchema (h : s.IsKeepable) : (ofSchema name time s).toSchema = s :=
  toSchema_ofSchema_of_resolved (resolveReferences_eq_self h.names h.closed)

/-- The table of an entry is a table of the schema. -/
lemma mem_of_mem_entries {e : String × Table} (he : e ∈ (ofSchema name time s).entries) :
    e.2 ∈ s.tables := by
  obtain ⟨t, ht, rfl⟩ := List.mem_map.mp (mem_of_mem_sortedEntries he)
  exact ht

lemma isStorable_ofSchema_of_resolved (hstorable : ∀ t ∈ s.tables, t.IsStorable)
    (h : resolveReferences s.tables = s.tables) : (ofSchema name time s).IsStorable where
  nodes := List.forall_mem_map.mpr hstorable
  entries _ he := hstorable _ (mem_of_mem_entries he)
  sorted := sortedByKey_sortedEntries _
  edges := by
    rw [withEdges, toSchema_ofSchema_of_resolved h]
    rfl

lemma isStorable_ofSchema (h : s.IsKeepable) : (ofSchema name time s).IsStorable :=
  isStorable_ofSchema_of_resolved h.isStorable (resolveReferences_eq_self h.names h.closed)

lemma isPlaceable_ofSchema_of_places (hplaces : ∀ t ∈ s.tables, t.position.IsReadBack) :
    (ofSchema name time s).IsPlaceable where
  nodes := List.forall_mem_map.mpr fun t ht => ⟨hplaces t ht, hplaces t ht⟩
  entries _ he := hplaces _ (mem_of_mem_entries he)

lemma isPlaceable_ofSchema (h : s.IsKeepable) : (ofSchema name time s).IsPlaceable :=
  isPlaceable_ofSchema_of_places h.places

/-- The entries have all tables, in the order of their identities. -/
lemma entries_ofSchema_perm (name : String) (time : Timestamp) (h : s.IsKeepable) :
    ((ofSchema name time s).entries.map Prod.snd).Perm s.tables := by
  have hkeys : ((s.tables.map fun t => (t.id.text, t)).map Prod.fst).Nodup := by
    rw [List.map_map]
    exact nodup_idTexts h.ids
  have hsame : (s.tables.map fun t => (t.id.text, t)).map Prod.snd = s.tables :=
    (List.map_map ..).trans (List.map_id _)
  exact hsame ▸ (sortedEntries_perm hkeys).map Prod.snd

/-- Without its nodes, a project has the tables of the schema in another order. -/
lemma tables_withoutNodes_perm (name : String) (time : Timestamp) (h : s.IsKeepable) :
    (toSchema { ofSchema name time s with nodes := [] }).tables.Perm s.tables := by
  have hperm := entries_ofSchema_perm name time h
  have hnames := (DistinctNames.perm_iff (hperm.map _)).mpr h.names
  have hinto : ∀ t ∈ (ofSchema name time s).entries.map Prod.snd,
      t.RefersInto ((ofSchema name time s).entries.map Prod.snd) := by
    intro t ht c hc r hr
    obtain ⟨u, hu, hresolved⟩ := h.closed t (hperm.mem_iff.mp ht) c hc r hr
    exact ⟨u, hperm.mem_iff.mpr hu, hresolved⟩
  change (resolveReferences ((ofSchema name time s).entries.map Prod.snd)).Perm s.tables
  rw [resolveReferences_eq_self hnames hinto]
  exact hperm

/-- The project of a schema is opened again as it was saved, whatever identities are new then and
however late it is. It gives the schema back, and without its nodes it still has the same tables and
relationships. This holds of each schema that is built from nothing by commands whose columns are in
normal form. -/
theorem reopen_ofSchema :
    (∀ (name : String) (time later : Timestamp) (s : Schema) (ids : IdSupply), s.IsKeepable →
      Timestamp.ofText time.text = .ok time →
      Project.ofText later (ofSchema name time s).toText ids = .ok (ofSchema name time s, ids)
        ∧ (ofSchema name time s).toSchema = s
        ∧ (toSchema { ofSchema name time s with nodes := [] }).tables.Perm s.tables
        ∧ (toSchema { ofSchema name time s with nodes := [] }).relationships.Perm s.relationships)
    ∧ ∀ commands : List (TableId × Command), Schema.empty.DrawsFresh commands →
      (∀ c ∈ commands, c.2.IsNormal) →
      (∀ t ∈ (Schema.empty.run commands).tables, t.position.IsReadBack) →
      (Schema.empty.run commands).IsKeepable := by
  refine ⟨fun name time later s ids h htime => ?_, fun commands => Schema.IsKeepable.run_empty⟩
  have hread : Project.ofText later (ofSchema name time s).toText = pure (ofSchema name time s) :=
    ofText_toText later (isStorable_ofSchema h) (isPlaceable_ofSchema h) htime
  have hperm := tables_withoutNodes_perm name time h
  refine ⟨congrFun hread ids, toSchema_ofSchema h, hperm, ?_⟩
  exact (Relationship.ofTables_perm hperm.symm h.names).symm

/-- The schema of a run with a reference is built from nothing, and its project is opened again. -/
theorem reopen_sampleCommands :
    (Schema.empty.run Schema.sampleCommands).IsKeepable
    ∧ ∀ ids, Project.ofText .epoch
        (ofSchema "shop" .epoch (Schema.empty.run Schema.sampleCommands)).toText ids
      = .ok (ofSchema "shop" .epoch (Schema.empty.run Schema.sampleCommands), ids) := by
  have hfresh : Schema.empty.DrawsFresh Schema.sampleCommands :=
    Schema.drawsFresh_of_nodup (by decide)
  have hcolumns : ∀ c ∈ Schema.sampleCommands, c.2.IsNormal := by
    simp only [Schema.sampleCommands, List.forall_mem_cons]
    exact ⟨trivial, ⟨by decide, by decide, nofun, nofun⟩, trivial, trivial,
      ⟨by decide, by decide, nofun, nofun⟩, trivial, trivial, fun _ h => nomatch h⟩
  have hplaces : ∀ t ∈ (Schema.empty.run Schema.sampleCommands).tables, t.position.IsReadBack := by
    decide +kernel
  have hkeepable := reopen_ofSchema.2 Schema.sampleCommands hfresh hcolumns hplaces
  exact ⟨hkeepable, fun ids =>
    (reopen_ofSchema.1 "shop" .epoch .epoch _ ids hkeepable (by decide)).1⟩

end Project

end SchemaDesigner
