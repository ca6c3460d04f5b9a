/-
Foreign keys as edges between columns.

* `Relationship.source`, `Relationship.target`: the two ends of an edge, by their names;
* `Schema.foreignKeys`, `Schema.foreignKeyAt?`: the edges to the names that the references spell,
  and the one at a place;
* `Relationship.declared?`, `Schema.relationships_eq`: the relationships are the foreign keys whose
  table exists, under the name that it declares;
* `Reference.destination?`: where a reference leads, by the identity of a table and a place in it.
-/
import SchemaDesigner.Proofs.Schema.Distinct

namespace SchemaDesigner

/-! ### Edges -/

namespace Relationship

/-- The referring column, by the names of its table and its own. -/
def source (e : Relationship) : Reference :=
  ⟨e.sourceTable, e.sourceColumn⟩

/-- The column referred to. -/
def target (e : Relationship) : Reference :=
  ⟨e.targetTable, e.targetColumn⟩

/-- The edge from a column to the names that its reference spells. -/
def spelled (t : Table) (c : Column) (r : Reference) : Relationship where
  sourceTable := t.name
  sourceColumn := c.name
  targetTable := r.table
  targetColumn := r.column
  optional := c.nullable

@[simp]
lemma source_spelled (t : Table) (c : Column) (r : Reference) :
    (spelled t c r).source = ⟨t.name, c.name⟩ := rfl

@[simp]
lemma target_spelled (t : Table) (c : Column) (r : Reference) : (spelled t c r).target = r := rfl

/-- The edge to the table that is meant, if there is one, under the name that this declares. -/
def declared? (tables : List Table) (e : Relationship) : Option Relationship :=
  (tableNamed? tables e.targetTable).map fun t => { e with targetTable := t.name }

end Relationship

/-- The foreign keys of a table, in the order of its columns. -/
def Table.foreignKeys (t : Table) : List Relationship :=
  t.columns.filterMap fun c => c.reference.map (Relationship.spelled t c)

/-- The foreign keys of all tables, dangling ones included. -/
def Schema.foreignKeys (s : Schema) : List Relationship :=
  s.tables.flatMap Table.foreignKeys

/-- The relationships are the foreign keys to tables that exist. -/
lemma Schema.relationships_eq (s : Schema) :
    s.relationships = s.foreignKeys.filterMap (Relationship.declared? s.tables) := by
  rw [relationships, Relationship.ofTables, foreignKeys, List.filterMap_flatMap]
  refine List.flatMap_congr fun t _ => ?_
  rw [Relationship.ofTable, Table.references, Table.foreignKeys, List.filterMap_filterMap,
    List.filterMap_filterMap]
  refine List.filterMap_congr fun c _ => ?_
  cases c.reference <;> rfl

/-- Which table a name means is a matter of the names of the tables. -/
lemma map_name_tableNamed? (tables : List Table) (name : String) :
    (tableNamed? tables name).map (fun t => t.name)
      = (tables.map fun t => t.name).find? fun n => namesMatch n name := by
  rw [tableNamed?, List.find?_map]
  rfl

lemma Relationship.declared?_congr {tables tables' : List Table} {e : Relationship}
    (h : ((tables'.map fun t => t.name).find? fun n => namesMatch n e.targetTable)
      = (tables.map fun t => t.name).find? fun n => namesMatch n e.targetTable) :
    e.declared? tables' = e.declared? tables := by
  have hnames : ∀ tables : List Table, e.declared? tables
      = ((tableNamed? tables e.targetTable).map fun t => t.name).map fun n =>
        { e with targetTable := n } := fun tables => by rw [Option.map_map]; rfl
  rw [hnames, hnames, map_name_tableNamed?, map_name_tableNamed?, h]

lemma Table.source_of_mem_foreignKeys {t : Table} {e : Relationship} (h : e ∈ t.foreignKeys) :
    e.source.table = t.name := by
  obtain ⟨c, -, hc⟩ := List.mem_filterMap.mp h
  obtain ⟨r, -, rfl⟩ := Option.map_eq_some_iff.mp hc
  rfl

/-! ### Places -/

/-- The foreign key of the column at the place `l` of the table at the place `k`. -/
def Schema.foreignKeyAt? (s : Schema) (k l : ℕ) : Option Relationship :=
  s.tables[k]?.bind fun t => t.columns[l]?.bind fun c => c.reference.map (Relationship.spelled t c)

/-- Where a reference leads, if it does: to a table, by its identity, and to a place in it. -/
def Reference.destination? (tables : List Table) (r : Reference) : Option (TableId × ℕ) :=
  (tableNamed? tables r.table).bind fun t => (t.columnIndex? r.column).map fun p => (t.id, p)

section Places

variable {s : Schema} {k l p : ℕ} {t : Table} {c : Column} {r : Reference} {e : Relationship}

lemma Schema.foreignKeyAt?_eq_some : s.foreignKeyAt? k l = some e ↔ ∃ t c r,
    s.tables[k]? = some t ∧ t.columns[l]? = some c ∧ c.reference = some r
      ∧ .spelled t c r = e := by
  simp only [foreignKeyAt?, Option.bind_eq_some_iff, Option.map_eq_some_iff]
  constructor
  · rintro ⟨t, ht, c, hc, r, hr, he⟩
    exact ⟨t, c, r, ht, hc, hr, he⟩
  · rintro ⟨t, c, r, ht, hc, hr, he⟩
    exact ⟨t, ht, c, hc, r, hr, he⟩

/-- The foreign keys at all places are the foreign keys. -/
lemma Schema.mem_foreignKeys_iff : e ∈ s.foreignKeys ↔ ∃ k l, s.foreignKeyAt? k l = some e := by
  simp only [foreignKeyAt?_eq_some, foreignKeys, Table.foreignKeys, List.mem_flatMap,
    List.mem_filterMap, Option.map_eq_some_iff]
  constructor
  · rintro ⟨t, ht, c, hc, r, hr, he⟩
    obtain ⟨k, hk⟩ := List.mem_iff_getElem?.mp ht
    obtain ⟨l, hl⟩ := List.mem_iff_getElem?.mp hc
    exact ⟨k, l, t, c, r, hk, hl, hr, he⟩
  · rintro ⟨k, l, t, c, r, hk, hl, hr, he⟩
    exact ⟨t, List.mem_of_getElem? hk, c, List.mem_of_getElem? hl, r, hr, he⟩

/-- Among distinct names, the place that a name denotes is the only one of that name. -/
lemma Table.columnIndex?_eq_some_iff (h : DistinctNames (t.columns.map fun c => c.name))
    {name : String} : t.columnIndex? name = some p
      ↔ ∃ c, t.columns[p]? = some c ∧ namesMatch c.name name = true := by
  constructor
  · intro hp
    obtain ⟨hlt, hname, -⟩ := List.findIdx?_eq_some_iff_getElem.mp hp
    exact ⟨_, List.getElem?_eq_getElem hlt, hname⟩
  · rintro ⟨c, hc, hname⟩
    have hsome : (t.columnIndex? name).isSome = true :=
      List.findIdx?_isSome.trans (List.any_eq_true.mpr ⟨c, List.mem_of_getElem? hc, hname⟩)
    obtain ⟨q, hq⟩ := Option.isSome_iff_exists.mp hsome
    obtain ⟨hlt, hqname, -⟩ := List.findIdx?_eq_some_iff_getElem.mp hq
    rw [hq, h.eq_of_match (i := p) (j := q) ?_ ?_
      (namesMatch_trans hname (namesMatch_symm hqname))]
    · rw [List.getElem?_map, hc, Option.map_some]
    · rw [List.getElem?_map, List.getElem?_eq_getElem hlt, Option.map_some]

/-- Among distinct names, a reference leads to the column that it names. -/
lemma Schema.HasDistinctNames.destination?_eq_some_iff (hs : s.HasDistinctNames)
    {place : TableId × ℕ} : r.destination? s.tables = some place
      ↔ ∃ t ∈ s.tables, t.id = place.1 ∧ ∃ c, t.columns[place.2]? = some c
        ∧ r.names t.name c.name = true := by
  simp only [Reference.destination?, Option.bind_eq_some_iff, Option.map_eq_some_iff,
    tableNamed?_eq_some_iff hs.tables, Reference.names_iff]
  constructor
  · rintro ⟨t, ⟨ht, htname⟩, p, hp, rfl⟩
    obtain ⟨c, hc, hcname⟩ := (Table.columnIndex?_eq_some_iff (hs.columns t ht)).mp hp
    exact ⟨t, ht, rfl, c, hc, htname, hcname⟩
  · rintro ⟨t, ht, hid, c, hc, htname, hcname⟩
    exact ⟨t, ⟨ht, htname⟩, place.2,
      (Table.columnIndex?_eq_some_iff (hs.columns t ht)).mpr ⟨c, hc, hcname⟩, by rw [hid]⟩

end Places

/-- A schema in which a table refers to itself, another one to it, and two references dangle. -/
def Schema.linkedSchema : Schema where
  tables := [
    { id := ⟨"1"⟩, name := "orders", columns := [
      { name := "user_id", type := .int, reference := some ⟨"USERS", "Id"⟩, id := ⟨"a"⟩ },
      { name := "user_code", type := .int, reference := some ⟨"Users", "code"⟩, id := ⟨"b"⟩ },
      { name := "id", type := .int, primaryKey := true, id := ⟨"c"⟩ }] },
    { id := ⟨"2"⟩, name := "users", columns := [
      { name := "id", type := .int, primaryKey := true, id := ⟨"d"⟩ },
      { name := "boss", type := .int, reference := some ⟨"users", "ID"⟩, id := ⟨"e"⟩ },
      { name := "last", type := .int, nullable := false, reference := some ⟨"Orders", "id"⟩,
        id := ⟨"f"⟩ },
      { name := "team", type := .int, reference := some ⟨"teams", "id"⟩, id := ⟨"g"⟩ }] }]

lemma Schema.hasDistinctNames_linkedSchema : linkedSchema.HasDistinctNames where
  ids := by decide
  tables := by decide
  columns := by decide

end SchemaDesigner
