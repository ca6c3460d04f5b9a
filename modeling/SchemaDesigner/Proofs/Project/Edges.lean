/-
The edges of a project: to what they are attached, and what tells them apart.

* `Edge.ofSchema_eq`: each referral to a table that exists has its edge;
* `Edge.Draws`: an edge is attached to both tables and to the referring column, and to the column
  referred to if the reference spells it as that column is declared;
* `Project.edges_draw`: so is each edge of a project;
* `Project.nodup_edgeIds_iff`: the identities of edges are distinct unless the identity of one table
  is that of another one, a dash and more.

Names that match need not be spelled alike, and the handles of a canvas are told apart by spelling.
-/
import SchemaDesigner.Project
import SchemaDesigner.Proofs.Schema.Referral
import SchemaDesigner.Proofs.Text.Cut

namespace SchemaDesigner

/-- The edge to a table. -/
def Referral.edge (x : Referral) (target : Table) : Edge :=
  Edge.between x.table target (x.relationship target)

/-- Among tables with distinct names, each referral to a table that exists has its edge. -/
lemma Edge.ofSchema_eq {s : Schema} (hnames : DistinctNames (s.tables.map fun t => t.name)) :
    Edge.ofSchema s = (referrals s.tables).filterMap fun x =>
      (tableNamed? s.tables x.reference.table).map x.edge := by
  rw [ofSchema, Schema.relationships, Relationship.ofTables_eq, List.filterMap_filterMap]
  refine List.filterMap_congr fun x hx => ?_
  cases htarget : tableNamed? s.tables x.reference.table with
  | none => rfl
  | some t =>
    have hself : ∀ u ∈ s.tables, s.tableNamed? u.name = some u := fun u hu =>
      (tableNamed?_eq_some_iff hnames).mpr ⟨hu, namesMatch_refl _⟩
    have hsource : s.tableNamed? (x.relationship t).sourceTable = some x.table :=
      hself x.table (mem_referrals.mp hx).1
    have htarget' : s.tableNamed? (x.relationship t).targetTable = some t :=
      hself t (tableNamed?_eq_some htarget).1
    rw [Option.map_some, Option.bind_some, hsource, htarget']
    rfl

/-! ### Handles -/

/-- The edge of a referral leads from the owning table, at the handle of the referring column, to
the table that the reference names. Where the reference names a column, the edge ends at the handle
of that column if the reference spells it as it is declared, and at the handle of no column of the
table otherwise. -/
structure Edge.Draws (tables : List Table) (e : Edge) (x : Referral) : Prop where
  source : e.source = x.table.id
  sourceHandle : e.sourceHandle = x.column.name ++ "-source"
  target : ∀ t ∈ tables, namesMatch t.name x.reference.table = true → e.target = t.id
  targetHandle : ∀ t ∈ tables, ∀ c ∈ t.columns, x.reference.names t.name c.name = true →
    ∀ d ∈ t.columns, e.targetHandle = d.name ++ "-target" ↔ d = c ∧ x.reference.column = c.name

lemma Referral.draws_edge {s : Schema} (h : s.HasDistinctNames) {x : Referral} {t : Table}
    (ht : tableNamed? s.tables x.reference.table = some t) :
    (x.edge t).Draws s.tables x where
  source := rfl
  sourceHandle := rfl
  target u hu hname := by
    rw [(tableNamed?_eq_some_iff h.tables).mpr ⟨hu, hname⟩] at ht
    obtain rfl := Option.some.inj ht
    rfl
  targetHandle u hu c hc hnames d hd := by
    have hcname := (Reference.names_iff.mp hnames).2
    have hhandle : (x.edge t).targetHandle = x.reference.column ++ "-target" := rfl
    rw [hhandle, String.append_left_inj]
    constructor
    · intro hspelled
      rw [hspelled] at hcname ⊢
      obtain rfl := (h.columns u hu).eq_of_mem hc hd hcname
      exact ⟨rfl, rfl⟩
    · rintro ⟨rfl, hspelled⟩
      exact hspelled

namespace Project

/-- In a schema with distinct names, the edges belong to the referrals to tables that exist, one by
one and in their order, and are attached to the column referred to if and only if the reference
spells it as it is declared. -/
theorem edges_draw {s : Schema} (h : s.HasDistinctNames) (name : String) (time : Timestamp) :
    List.Forall₂ (Edge.Draws s.tables) (ofSchema name time s).edges
      ((referrals s.tables).filter fun x => ¬x.IsLost s.tables) := by
  rw [ofSchema, Edge.ofSchema_eq h.tables]
  exact forall₂_filterMap_referrals fun x _ t ht => Referral.draws_edge h ht

/-- A reference in the spelling of the column that it names has an edge to the handle of it. -/
theorem edges_draw_linkedSchema : Schema.linkedSchema.HasDistinctNames
    ∧ ∃ e ∈ (ofSchema "shop" .epoch Schema.linkedSchema).edges,
      e.source = ⟨"2"⟩ ∧ e.sourceHandle = "last-source"
        ∧ e.target = ⟨"1"⟩ ∧ e.targetHandle = "id-target" := by
  have h := Schema.hasDistinctNames_linkedSchema
  have hdraws := (edges_draw h "shop" .epoch).get (i := 3) (by decide) (by decide)
  refine ⟨h, _, List.get_mem _ _, hdraws.source, hdraws.sourceHandle, ?_, ?_⟩
  · exact hdraws.target _ List.mem_cons_self (by decide)
  · have hcolumn := List.mem_of_getElem? (l := Schema.linkedSchema.tables[0].columns) (i := 2) rfl
    exact (hdraws.targetHandle _ List.mem_cons_self _ hcolumn (by decide) _ hcolumn).mpr ⟨rfl, rfl⟩

/-- A reference in another spelling names the column all the same, and its edge ends at no handle of
the table. -/
theorem detached_linkedSchema : Schema.linkedSchema.HasDistinctNames
    ∧ Schema.linkedSchema.tables.map (fun t => t.columns.map fun c => c.name)
      = [["user_id", "user_code", "id"], ["id", "boss", "last", "team"]]
    ∧ Reference.names ⟨"USERS", "Id"⟩ "users" "id" = true
    ∧ (ofSchema "shop" .epoch Schema.linkedSchema).edges.map
        (fun e => (e.id, e.source.text, e.sourceHandle, e.target.text, e.targetHandle))
      = [("rel-1-user_id", "1", "user_id-source", "2", "Id-target"),
        ("rel-1-user_code", "1", "user_code-source", "2", "code-target"),
        ("rel-2-boss", "2", "boss-source", "2", "ID-target"),
        ("rel-2-last", "2", "last-source", "1", "id-target")] :=
  ⟨Schema.hasDistinctNames_linkedSchema, by decide, by decide, by decide⟩

/-! ### Identities -/

/-- In a schema with distinct names, the identities of the edges are distinct if and only if there
are no two of them such that the identity of the one table is that of the other one, a dash and some
text, and the column of the other one is that text, a dash and the column of the one. -/
theorem nodup_edgeIds_iff {s : Schema} (h : s.HasDistinctNames) (name : String) (time : Timestamp) :
    ((ofSchema name time s).edges.map fun e => e.id).Nodup
      ↔ ∀ x ∈ referrals s.tables, ¬x.IsLost s.tables →
        ∀ y ∈ referrals s.tables, ¬y.IsLost s.tables →
          ¬Text.IsLaterCut "-" (x.table.id.text, x.column.name)
            (y.table.id.text, y.column.name) := by
  have hids : (ofSchema name time s).edges.map (fun e => e.id)
      = ((referrals s.tables).filter fun x => ¬x.IsLost s.tables).map fun x =>
        "rel-" ++ x.table.id.text ++ "-" ++ x.column.name := by
    have hall : List.Forall₂
        (fun e x => e.id = "rel-" ++ x.table.id.text ++ "-" ++ x.column.name)
        (Edge.ofSchema s) ((referrals s.tables).filter fun x => ¬x.IsLost s.tables) := by
      rw [Edge.ofSchema_eq h.tables]
      exact forall₂_filterMap_referrals fun _ _ _ _ => rfl
    rw [← List.forall₂_eq_eq_eq, List.forall₂_map_left_iff, List.forall₂_map_right_iff]
    exact hall
  have hkeys := (nodup_map_referrals (nodup_idTexts h.ids) h.columns).sublist
    ((List.filter_sublist (p := fun x => ¬x.IsLost s.tables)).map _)
  rw [hids, Text.nodup_map_separated_iff hkeys rfl]
  simp only [List.mem_filter, decide_eq_true_eq, and_imp]

/-- Identities of the same length lead to distinct edges. -/
theorem nodup_edgeIds_linkedSchema : Schema.linkedSchema.HasDistinctNames
    ∧ (∀ t ∈ Schema.linkedSchema.tables, t.id.text.length = 1)
    ∧ ((ofSchema "shop" .epoch Schema.linkedSchema).edges.map fun e => e.id).Nodup := by
  have h := Schema.hasDistinctNames_linkedSchema
  have hlength : ∀ t ∈ Schema.linkedSchema.tables, t.id.text.length = 1 := by decide
  refine ⟨h, hlength, (nodup_edgeIds_iff h "shop" .epoch).mpr fun x hx _ y hy _ hlater => ?_⟩
  have hlt := hlater.length_lt rfl
  rw [hlength _ (mem_referrals.mp hx).1, hlength _ (mem_referrals.mp hy).1] at hlt
  exact absurd hlt (lt_irrefl 1)

/-- Orders whose identity, a dash and more is that of their lines. -/
def dashedSchema : Schema where
  tables := [
    { id := ⟨"users"⟩, name := "users", columns := [
      { name := "id", type := .int, primaryKey := true, id := ⟨"a"⟩ }] },
    { id := ⟨"order"⟩, name := "orders", columns := [
      { name := "line-user", type := .int, reference := some ⟨"users", "id"⟩, id := ⟨"b"⟩ }] },
    { id := ⟨"order-line"⟩, name := "lines", columns := [
      { name := "user", type := .int, reference := some ⟨"users", "id"⟩, id := ⟨"c"⟩ }] }]

/-- The dash that ends the identity may be another one than the first behind it. -/
theorem repeated_edgeIds_dashedSchema : dashedSchema.HasDistinctNames
    ∧ (ofSchema "shop" .epoch dashedSchema).edges.map (fun e => e.id)
      = ["rel-order-line-user", "rel-order-line-user"]
    ∧ ¬((ofSchema "shop" .epoch dashedSchema).edges.map fun e => e.id).Nodup :=
  ⟨⟨by decide, by decide, by decide⟩, by decide, by decide⟩

end Project

end SchemaDesigner
