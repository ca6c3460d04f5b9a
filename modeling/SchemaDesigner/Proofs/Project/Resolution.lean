/-
References by identity, as older projects have them: what they become, and what stays as it is.

* `Reference.Means`: the table that a reference means, by its name or else by its identity;
* `resolveReference_eq`: what becomes of a reference to a table;
* `referencedColumn_of_name`, `referencedColumn_of_id`: what becomes of its column;
* `resolveReference_resolveReference`, `resolveReferences_resolveReferences`: nothing is left to be
  resolved;
* `Project.LoadsIdentities`, `Project.loadsIdentities`: references by identity are loaded as the
  names they stand for.
-/
import SchemaDesigner.Proofs.Project.Keyed

namespace SchemaDesigner

/-! ### The table of a reference -/

/-- The reference means the table: its table part is the name of this table, or it is no name of a
table but the identity of this one. -/
def Reference.Means (tables : List Table) (r : Reference) (t : Table) : Prop :=
  namesMatch t.name r.table = true
    ∨ (∀ u ∈ tables, namesMatch u.name r.table = false) ∧ t.id.text = r.table

section Resolve

variable {tables : List Table} {r : Reference} {t : Table}

/-- The table that a reference means is found, as names and identities tell the tables apart. -/
lemma referencedTable?_of_means (hnames : DistinctNames (tables.map fun t => t.name))
    (hids : (tables.map fun t => t.id).Nodup) (ht : t ∈ tables) (h : r.Means tables t) :
    referencedTable? tables r = some t := by
  rw [referencedTable?]
  rcases h with hname | ⟨hnone, hid⟩
  · rw [(tableNamed?_eq_some_iff hnames).mpr ⟨ht, hname⟩, Option.some_or]
  · rw [tableNamed?_eq_none_iff.mpr hnone, Option.none_or]
    exact (find?_id_eq_some_iff hids).mpr ⟨ht, hid⟩

/-- No table is found exactly if the reference has neither the name nor the identity of one. -/
lemma referencedTable?_eq_none_iff : referencedTable? tables r = none
    ↔ ∀ u ∈ tables, namesMatch u.name r.table = false ∧ u.id.text ≠ r.table := by
  simp [referencedTable?, tableNamed?, forall_and]

/-- The names of the table and the column that a reference becomes. -/
lemma resolveReference_eq (h : referencedTable? tables r = some t) : resolveReference tables r
    = ⟨if namesMatch r.table t.name then r.table else t.name, referencedColumn t r.column⟩ := by
  rw [resolveReference, h]

end Resolve

/-! ### The column of a reference -/

section Column

variable {t : Table} {c : Column} {column : String}

/-- The name of a column stays as it is spelled. -/
lemma referencedColumn_of_name (hc : c ∈ t.columns) (h : namesMatch c.name column = true) :
    referencedColumn t column = column := by
  rw [referencedColumn, if_pos (Table.isSome_column?_iff.mpr ⟨c, hc, h⟩)]

/-- The identity of a column becomes its name, unless it is the name of one. -/
lemma referencedColumn_of_id (hids : (t.columns.map fun c => c.id).Nodup) (hc : c ∈ t.columns)
    (hnone : ∀ d ∈ t.columns, namesMatch d.name column = false) (h : c.id.text = column) :
    referencedColumn t column = c.name := by
  have hcolumn : ¬(t.column? column).isSome = true := by
    rw [Table.isSome_column?_iff]
    rintro ⟨d, hd, hname⟩
    exact Bool.noConfusion ((hnone d hd).symm.trans hname)
  have hfind : (t.columns.find? fun c => c.id.text == column) = some c := by
    refine (find?_eq_some_iff_of_unique fun d hd e he hdid heid => ?_).mpr
      ⟨hc, beq_iff_eq.mpr h⟩
    have htext := (beq_iff_eq.mp hdid).trans (beq_iff_eq.mp heid).symm
    exact List.inj_on_of_nodup_map hids hd he (congrArg ColumnId.mk htext)
  rw [referencedColumn, if_neg hcolumn, hfind]

/-- The name of a column stands for itself, and what stands for no column does so, too. -/
lemma referencedColumn_referencedColumn (t : Table) (column : String) :
    referencedColumn t (referencedColumn t column) = referencedColumn t column := by
  by_cases hname : (t.column? column).isSome = true
  · have hsame : referencedColumn t column = column := by rw [referencedColumn, if_pos hname]
    rw [hsame, hsame]
  · cases hid : t.columns.find? fun c => c.id.text == column with
    | none =>
      have hsame : referencedColumn t column = column := by
        rw [referencedColumn, if_neg hname, hid]
      rw [hsame, hsame]
    | some c =>
      have hc : referencedColumn t column = c.name := by rw [referencedColumn, if_neg hname, hid]
      rw [hc]
      exact referencedColumn_of_name (List.mem_of_find?_eq_some hid) (namesMatch_refl _)

end Column

/-! ### The second time -/

section Twice

variable {tables : List Table}

/-- A resolved reference has the names of its target, or there is none. -/
lemma resolveReference_resolveReference (hnames : DistinctNames (tables.map fun t => t.name))
    (r : Reference) :
    resolveReference tables (resolveReference tables r) = resolveReference tables r := by
  cases htarget : referencedTable? tables r with
  | none =>
    have hsame : resolveReference tables r = r := by rw [resolveReference, htarget]
    rw [hsame, hsame]
  | some t =>
    have ht : t ∈ tables := by
      rw [referencedTable?, Option.or_eq_some_iff] at htarget
      rcases htarget with hname | ⟨-, hid⟩
      · exact (tableNamed?_eq_some hname).1
      · exact List.mem_of_find?_eq_some hid
    have hresolved := resolveReference_eq htarget
    have hmatch : namesMatch (resolveReference tables r).table t.name = true := by
      rw [hresolved]
      dsimp only
      split_ifs with hname
      · exact hname
      · exact namesMatch_refl _
    have hagain : referencedTable? tables (resolveReference tables r) = some t := by
      rw [referencedTable?,
        (tableNamed?_eq_some_iff hnames).mpr ⟨ht, namesMatch_symm hmatch⟩, Option.some_or]
    rw [resolveReference_eq hagain, if_pos hmatch, hresolved]
    dsimp only
    rw [referencedColumn_referencedColumn]

/-- Which column is meant does not depend on the references of the table. -/
lemma referencedColumn_mapReferences (f : Reference → Option Reference) (t : Table)
    (column : String) :
    referencedColumn (t.mapReferences f) column = referencedColumn t column := by
  have hname : (fun c : Column => namesMatch c.name column)
      ∘ Column.modify (ColumnDef.mapReference f) = fun c => namesMatch c.name column := rfl
  have hid : (fun c : Column => c.id.text == column) ∘ Column.modify (ColumnDef.mapReference f)
      = fun c => c.id.text == column := rfl
  rw [referencedColumn, referencedColumn, Table.column?, Table.column?, Table.mapReferences,
    List.find?_map, List.find?_map, hname, hid, Option.isSome_map]
  cases t.columns.find? fun c => c.id.text == column <;> rfl

/-- Resolved tables are resolved into themselves. -/
lemma resolveReferences_resolveReferences (hnames : DistinctNames (tables.map fun t => t.name)) :
    resolveReferences (resolveReferences tables) = resolveReferences tables := by
  have hsame : resolveReference (resolveReferences tables) = resolveReference tables :=
    resolveReference_map (f := Table.mapReferences fun r => some (resolveReference tables r))
      (fun _ => rfl) (fun _ => rfl) (fun t => referencedColumn_mapReferences _ t) tables
  refine resolveReferences_eq_self_of_forall fun t ht c hc r hr => ?_
  rw [hsame]
  obtain ⟨u, -, rfl⟩ := List.mem_map.mp ht
  obtain ⟨d, -, rfl⟩ := List.mem_map.mp hc
  obtain ⟨r₀, -, hr₀⟩ := Option.bind_eq_some_iff.mp hr
  obtain rfl := Option.some.inj hr₀
  exact resolveReference_resolveReference hnames r₀

end Twice

/-! ### Projects -/

namespace Project

/-- There are nodes, and they and their columns are told apart by identity, the tables also by
name. -/
structure IsIdentified (p : Project) : Prop where
  nonempty : p.nodes ≠ []
  ids : (p.nodes.map fun n => n.id).Nodup
  names : DistinctNames (p.nodes.map fun n => n.data.name)
  columnIds : ∀ n ∈ p.nodes, (n.data.columns.map fun c => c.id).Nodup

/-- References by identity are loaded as the names they stand for, and names are loaded as they
are. -/
structure LoadsIdentities (p : Project) : Prop where
  /-- The tables are those of the nodes, in which each reference is resolved by itself. -/
  tables : p.toSchema.tables = p.nodes.map fun n =>
    n.toTable.mapReferences fun r => some (resolveReference p.tables r)
  /-- The identities of a node and of one of its columns become their names, unless they are names
  themselves. -/
  byIdentity : ∀ n ∈ p.nodes, ∀ k ∈ n.data.columns,
    (∀ m ∈ p.nodes, namesMatch m.data.name n.id.text = false) →
    (∀ d ∈ n.data.columns, namesMatch d.name k.id.text = false) →
    resolveReference p.tables ⟨n.id.text, k.id.text⟩ = ⟨n.data.name, k.name⟩
      ∧ ∀ m ∈ p.nodes, ∀ c ∈ m.data.columns, c.reference = some ⟨n.id.text, k.id.text⟩ →
        { sourceTable := m.data.name, sourceColumn := c.name, targetTable := n.data.name,
          targetColumn := k.name, optional := c.nullable } ∈ p.toSchema.relationships
  /-- The name of a table stays as it is written. -/
  tableName : ∀ n ∈ p.nodes, ∀ r : Reference, namesMatch n.data.name r.table = true →
    (resolveReference p.tables r).table = r.table
  /-- So does the name of a column of the table that the reference means. -/
  columnName : ∀ n ∈ p.nodes, ∀ r : Reference, r.Means p.tables n.toTable →
    ∀ d ∈ n.data.columns, namesMatch d.name r.column = true →
    (resolveReference p.tables r).column = r.column
  /-- A reference to no table stays as it is. -/
  unresolved : ∀ r : Reference,
    (∀ n ∈ p.nodes, namesMatch n.data.name r.table = false ∧ n.id.text ≠ r.table) →
    resolveReference p.tables r = r
  /-- The second time there is nothing left to be resolved. -/
  twice : resolveReferences p.toSchema.tables = p.toSchema.tables

namespace IsIdentified

variable {p : Project}

/-- The tables of the nodes have the names of the nodes. -/
lemma distinct_tables (h : p.IsIdentified) : DistinctNames (p.tables.map fun t => t.name) := by
  rw [tables_of_nodes h.nonempty, List.map_map]
  exact h.names

lemma nodup_tables (h : p.IsIdentified) : (p.tables.map fun t => t.id).Nodup := by
  rw [tables_of_nodes h.nonempty, List.map_map]
  exact h.ids

/-- Each node has its table in the project. -/
lemma mem_tables (h : p.IsIdentified) {n : Node} (hn : n ∈ p.nodes) : n.toTable ∈ p.tables := by
  rw [tables_of_nodes h.nonempty]
  exact List.mem_map_of_mem hn

lemma forall_mem_tables (h : p.IsIdentified) {P : Table → Prop} (hp : ∀ n ∈ p.nodes, P n.toTable) :
    ∀ t ∈ p.tables, P t := by
  rw [tables_of_nodes h.nonempty]
  exact List.forall_mem_map.mpr hp

/-- A reference that means the table of a node gets the names of this table. -/
lemma resolveReference_eq_of_means (h : p.IsIdentified) {n : Node} (hn : n ∈ p.nodes)
    {r : Reference} (hr : r.Means p.tables n.toTable) : resolveReference p.tables r
      = ⟨if namesMatch r.table n.data.name then r.table else n.data.name,
        referencedColumn n.toTable r.column⟩ :=
  resolveReference_eq (t := n.toTable)
    (referencedTable?_of_means h.distinct_tables h.nodup_tables (h.mem_tables hn) hr)

/-- The identities of a node and of its column are resolved into both names. -/
lemma resolveReference_identities (h : p.IsIdentified) {n : Node} (hn : n ∈ p.nodes) {k : Column}
    (hk : k ∈ n.data.columns) (hnone : ∀ m ∈ p.nodes, namesMatch m.data.name n.id.text = false)
    (hcolumns : ∀ d ∈ n.data.columns, namesMatch d.name k.id.text = false) :
    resolveReference p.tables ⟨n.id.text, k.id.text⟩ = ⟨n.data.name, k.name⟩ := by
  have hmeans : Reference.Means p.tables ⟨n.id.text, k.id.text⟩ n.toTable :=
    .inr ⟨h.forall_mem_tables hnone, rfl⟩
  have hname : ¬namesMatch n.id.text n.data.name = true := fun hmatch =>
    Bool.noConfusion ((hnone n hn).symm.trans (namesMatch_symm hmatch))
  have hcolumn : referencedColumn n.toTable k.id.text = k.name :=
    referencedColumn_of_id (h.columnIds n hn) hk hcolumns rfl
  rw [h.resolveReference_eq_of_means hn hmeans]
  dsimp only
  rw [if_neg hname, hcolumn]

/-- A reference that is resolved into the name of a table has a relationship to it. -/
lemma mem_relationships (h : p.IsIdentified) {m n : Node} (hm : m ∈ p.nodes) (hn : n ∈ p.nodes)
    {c : Column} (hc : c ∈ m.data.columns) {r : Reference} (hr : c.reference = some r)
    {column : String} (hresolved : resolveReference p.tables r = ⟨n.data.name, column⟩) :
    { sourceTable := m.data.name, sourceColumn := c.name, targetTable := n.data.name,
      targetColumn := column, optional := c.nullable } ∈ p.toSchema.relationships := by
  let resolve : Reference → Option Reference := fun r => some (resolveReference p.tables r)
  have hmem : ∀ {l : Node}, l ∈ p.nodes → l.toTable.mapReferences resolve ∈ p.toSchema.tables :=
    fun hl => List.mem_map_of_mem (h.mem_tables hl)
  have hnames : DistinctNames (p.toSchema.tables.map fun t => t.name) := by
    rw [toSchema, resolveReferences, List.map_map]
    exact h.distinct_tables
  have htarget : tableNamed? p.toSchema.tables n.data.name
      = some (n.toTable.mapReferences resolve) :=
    (tableNamed?_eq_some_iff hnames).mpr ⟨hmem hn, namesMatch_refl _⟩
  have hreference : (c.modify (ColumnDef.mapReference resolve), ⟨n.data.name, column⟩)
      ∈ (m.toTable.mapReferences resolve).references := by
    refine Table.mem_references.mpr ⟨List.mem_map_of_mem hc, ?_⟩
    show c.reference.bind resolve = some ⟨n.data.name, column⟩
    rw [hr, ← hresolved]
    rfl
  refine List.mem_flatMap.mpr ⟨_, hmem hm, List.mem_filterMap.mpr ⟨_, hreference, ?_⟩⟩
  exact Option.map_eq_some_iff.mpr ⟨_, htarget, rfl⟩

end IsIdentified

/-- In a project whose nodes are told apart, references by identity are loaded as the names that
they stand for: each becomes the names and a relationship, names and unknown references stay as they
are, and resolving again changes nothing. -/
theorem loadsIdentities {p : Project} (h : p.IsIdentified) : p.LoadsIdentities where
  tables := by
    rw [toSchema, tables_of_nodes h.nonempty, resolveReferences, List.map_map]
    rfl
  byIdentity n hn k hk hnone hcolumns := by
    have hresolved := h.resolveReference_identities hn hk hnone hcolumns
    exact ⟨hresolved, fun m hm c hc hr => h.mem_relationships hm hn hc hr hresolved⟩
  tableName n hn r hname := by
    rw [h.resolveReference_eq_of_means hn (.inl hname)]
    exact if_pos (namesMatch_symm hname)
  columnName n hn r hr d hd hname := by
    rw [h.resolveReference_eq_of_means hn hr]
    exact referencedColumn_of_name hd hname
  unresolved r hnone := by
    rw [resolveReference, referencedTable?_eq_none_iff.mpr (h.forall_mem_tables hnone)]
  twice := resolveReferences_resolveReferences h.distinct_tables

/-- The table of users, as older projects have it. -/
def legacyUsers : Node where
  id := ⟨"node-1"⟩
  kind := Node.tableKind
  position := .origin
  data := { id := ⟨"node-1"⟩, name := "users", columns := [
    { name := "id", type := .int, primaryKey := true, id := ⟨"col-1"⟩ }] }

/-- A project in which a reference is given by identity, one by a name that is an identity as well,
and one leads nowhere. -/
def legacyProject : Project where
  name := "shop"
  nodes := [legacyUsers,
    { id := ⟨"users"⟩, kind := Node.tableKind, position := .origin,
      data := { id := ⟨"users"⟩, name := "orders", columns := [
        { name := "user_id", type := .int, reference := some ⟨"node-1", "col-1"⟩,
          id := ⟨"col-2"⟩ },
        { name := "payer_id", type := .int, reference := some ⟨"users", "ID"⟩, id := ⟨"ID"⟩ },
        { name := "col-1", type := .int, reference := some ⟨"node-9", "col-1"⟩,
          id := ⟨"col-1"⟩ }] } }]
  timestamp := .epoch
  version := formatVersion

/-- Identities, names and the identities of columns are all different, if taken apart. -/
lemma isIdentified_legacyProject : legacyProject.IsIdentified where
  nonempty := List.cons_ne_nil _ _
  ids := by decide
  names := by decide
  columnIds := by decide

/-- The first reference becomes names, the second one is a name and stays, and so does the third
one, which leads nowhere. -/
theorem loadsIdentities_legacyProject :
    resolveReference legacyProject.tables ⟨"node-1", "col-1"⟩ = ⟨"users", "id"⟩
      ∧ ⟨"orders", "user_id", "users", "id", true⟩ ∈ legacyProject.toSchema.relationships
      ∧ legacyProject.toSchema.tables.map (fun t => t.columns.map fun c => c.reference)
        = [[none], [some ⟨"users", "id"⟩, some ⟨"users", "ID"⟩, some ⟨"node-9", "col-1"⟩]] := by
  obtain ⟨hresolved, hrelationship⟩ := (loadsIdentities isIdentified_legacyProject).byIdentity
    legacyUsers List.mem_cons_self _ List.mem_cons_self (by decide) (by decide)
  refine ⟨hresolved, ?_, by decide⟩
  exact hrelationship _ (List.mem_cons_of_mem _ List.mem_cons_self) _ List.mem_cons_self rfl

end Project

end SchemaDesigner
