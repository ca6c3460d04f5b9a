/-
What references see of a schema: the names, the types, the sizes and the references of its columns.

* `Outline`, `outlines`: a column without its flags and its default, under the name of its table;
* `Outline.RefersTo`: the reference of one column names another one;
* `DistinctOutlines`, `Schema.WellFormed.distinctOutlines`: names tell the columns apart, as they do
  in a well-formed schema;
* `Schema.Closed.exists_names`, `exists_outline_of_checkReference`: where references lead;
* `outlines_map_mapReferences`, `outlines_modify_of_eq`, `mem_outlines_of_modify_subset`: the
  outlines after a change of references, a change that they do not show, and a loss of columns;
* `mem_outlines_append`, `Schema.WellFormed.mem_outlines_put_iff`: the outlines after a column
  is added or put in the place of another one.
-/
import SchemaDesigner.Proofs.Schema.Distinct

namespace SchemaDesigner

/-- The column without its flags and its default. -/
def ColumnDef.outline (c : ColumnDef) : ColumnDef :=
  { name := c.name, type := c.type, size := c.size, reference := c.reference }

/-- A column as references see it, under the name of its table. -/
structure Outline where
  table : String
  column : ColumnDef

/-- The columns of a table as references see them. -/
def Table.outlines (t : Table) : List Outline :=
  t.columns.map fun c => ⟨t.name, c.outline⟩

/-- The columns of all tables as references see them. -/
def outlines (tables : List Table) : List Outline :=
  tables.flatMap Table.outlines

namespace Outline

/-- The reference of the one column names the other one. -/
def RefersTo (p q : Outline) : Prop :=
  ∃ r, p.column.reference = some r ∧ r.names q.table q.column.name = true

/-- The two columns have the same name, and so have their tables. -/
def SameNames (p q : Outline) : Prop :=
  namesMatch p.table q.table = true ∧ namesMatch p.column.name q.column.name = true

/-- The column with its reference, if it has one, replaced or dropped. -/
def mapReference (f : Reference → Option Reference) (p : Outline) : Outline :=
  ⟨p.table, p.column.mapReference f⟩

end Outline

/-- Names tell the columns apart. -/
def DistinctOutlines (l : List Outline) : Prop :=
  ∀ p ∈ l, ∀ q ∈ l, p.SameNames q → p = q

section Membership

variable {tables : List Table} {p : Outline}

lemma Table.mem_outlines {t : Table} :
    p ∈ t.outlines ↔ ∃ c ∈ t.columns, (⟨t.name, c.outline⟩ : Outline) = p :=
  List.mem_map

lemma mem_outlines : p ∈ outlines tables ↔ ∃ t ∈ tables, p ∈ t.outlines :=
  List.mem_flatMap

lemma mem_outlines_of_mem {t : Table} {c : Column} (ht : t ∈ tables) (hc : c ∈ t.columns) :
    (⟨t.name, c.outline⟩ : Outline) ∈ outlines tables :=
  mem_outlines.mpr ⟨t, ht, Table.mem_outlines.mpr ⟨c, hc, rfl⟩⟩

lemma outlines_subset {tables' : List Table} (h : tables' ⊆ tables) :
    outlines tables' ⊆ outlines tables := by
  intro p hp
  obtain ⟨t, ht, hp⟩ := mem_outlines.mp hp
  exact mem_outlines.mpr ⟨t, h ht, hp⟩

/-- A property of all outlines is one of all columns. -/
lemma forall_outlines {P : Outline → Prop} :
    (∀ p ∈ outlines tables, P p) ↔ ∀ t ∈ tables, ∀ c ∈ t.columns, P ⟨t.name, c.outline⟩ := by
  simp only [outlines, Table.outlines, List.mem_flatMap, List.mem_map]
  constructor
  · exact fun h t ht c hc => h _ ⟨t, ht, c, hc, rfl⟩
  · rintro h p ⟨t, ht, c, hc, rfl⟩
    exact h t ht c hc

end Membership

/-- What a column refers to after its reference is replaced. -/
lemma Outline.mapReference_refersTo {p q : Outline} {f : Reference → Reference} :
    (p.mapReference fun r => some (f r)).RefersTo q ↔ ∃ r, p.column.reference = some r
      ∧ (f r).names q.table q.column.name = true := by
  constructor
  · rintro ⟨r', hr', hnames⟩
    obtain ⟨r, hr, hrr'⟩ := Option.bind_eq_some_iff.mp hr'
    obtain rfl := Option.some.inj hrr'
    exact ⟨r, hr, hnames⟩
  · rintro ⟨r, hr, hnames⟩
    exact ⟨f r, Option.bind_eq_some_iff.mpr ⟨r, hr, rfl⟩, hnames⟩

/-! ### Where references lead -/

section Names

variable {s : Schema} {p q : Outline} {r : Reference}

lemma Outline.SameNames.symm (h : p.SameNames q) : q.SameNames p :=
  ⟨namesMatch_symm h.1, namesMatch_symm h.2⟩

/-- Columns that one reference names have the same name. -/
lemma Reference.sameNames (hp : r.names p.table p.column.name = true)
    (hq : r.names q.table q.column.name = true) : p.SameNames q := by
  rw [Reference.names, Bool.and_eq_true] at hp hq
  exact ⟨namesMatch_trans (namesMatch_symm hp.1) hq.1, namesMatch_trans (namesMatch_symm hp.2) hq.2⟩

/-- A reference that names a column names those that have the same name. -/
lemma Reference.names_of_sameNames (hp : r.names p.table p.column.name = true)
    (h : p.SameNames q) : r.names q.table q.column.name = true := by
  rw [Reference.names, Bool.and_eq_true] at hp ⊢
  exact ⟨namesMatch_trans hp.1 h.1, namesMatch_trans hp.2 h.2⟩

lemma Reference.names_congr {table a b : String} (h : namesMatch a b = true) :
    r.names table a = r.names table b := by
  simp only [names, namesMatch, namesMatch_iff.mp h]

/-- The names of a well-formed schema tell its columns apart. -/
lemma Schema.WellFormed.distinctOutlines (h : s.WellFormed) :
    DistinctOutlines (outlines s.tables) := by
  intro p hp q hq hnames
  obtain ⟨t, ht, hp⟩ := mem_outlines.mp hp
  obtain ⟨u, hu, hq⟩ := mem_outlines.mp hq
  obtain ⟨c, hc, rfl⟩ := Table.mem_outlines.mp hp
  obtain ⟨d, hd, rfl⟩ := Table.mem_outlines.mp hq
  obtain rfl := h.distinct.eq_of_mem ht hu hnames.1
  obtain rfl := (h.tables t ht).distinct.eq_of_mem hc hd hnames.2
  rfl

/-- Each reference of a closed schema names one of its columns. -/
lemma Schema.Closed.exists_names (h : s.Closed) (hp : p ∈ outlines s.tables)
    (hr : p.column.reference = some r) :
    ∃ q ∈ outlines s.tables, r.names q.table q.column.name = true := by
  obtain ⟨t, ht, hp⟩ := mem_outlines.mp hp
  obtain ⟨c, hc, rfl⟩ := Table.mem_outlines.mp hp
  obtain ⟨u, hu, hname, d, hd, hcolumn⟩ := h t ht c hc r hr
  refine ⟨_, mem_outlines_of_mem hu hd, ?_⟩
  rw [Reference.names, Bool.and_eq_true]
  exact ⟨namesMatch_symm hname, namesMatch_symm hcolumn⟩

/-- What a reference leads to is a column that it names. -/
lemma mem_outlines_of_find {tables : List Table} {t : Table} {c : Column}
    (ht : tableNamed? tables r.table = some t) (hc : t.column? r.column = some c) :
    (⟨t.name, c.outline⟩ : Outline) ∈ outlines tables ∧ r.names t.name c.name = true := by
  obtain ⟨htmem, htname⟩ := tableNamed?_eq_some ht
  obtain ⟨hcmem, hcname⟩ := Table.column?_eq_some hc
  refine ⟨mem_outlines_of_mem htmem hcmem, ?_⟩
  rw [Reference.names, Bool.and_eq_true]
  exact ⟨namesMatch_symm htname, namesMatch_symm hcname⟩

/-- A reference that passes the gate names another column, of a type that fits. -/
lemma exists_outline_of_checkReference {tables : List Table} {owner : String} {source : ColumnDef}
    {u : Unit} (h : checkReference tables owner source r = .ok u) :
    ∃ q ∈ outlines tables, r.names q.table q.column.name = true
      ∧ (namesMatch q.table owner && namesMatch q.column.name source.name) = false
      ∧ source.incompatibility? q.column = none := by
  obtain ⟨t, ht, c, hc, hself, -, hfits⟩ := checkReference_eq_ok.mp h
  obtain ⟨hmem, hnames⟩ := mem_outlines_of_find ht hc
  exact ⟨_, hmem, hnames, hself, hfits⟩

end Names

/-! ### Outlines after a change -/

section Change

variable {tables : List Table} {p : Outline} {i : ℕ} {t : Table} {f : Table → Table}

lemma outlines_map_mapReferences (f : Reference → Option Reference) (tables : List Table) :
    outlines (tables.map (Table.mapReferences f))
      = (outlines tables).map (Outline.mapReference f) := by
  simp only [outlines, List.flatMap_map, List.map_flatMap, Table.outlines, Table.mapReferences,
    List.map_map]
  rfl

/-- A change that the columns of a table do not show does not show at all. -/
lemma outlines_modify_of_eq (hf : ∀ t, (f t).outlines = t.outlines) :
    outlines (tables.modify i f) = outlines tables := by
  rw [outlines, outlines, List.flatMap_def, List.flatMap_def, map_modify_of_eq hf]

/-- After a change of one table its columns are shown, and those of the tables at other places. -/
lemma mem_outlines_modify (hi : tables[i]? = some t) (hp : p ∈ outlines (tables.modify i f)) :
    p ∈ (f t).outlines ∨ ∃ k u, k ≠ i ∧ tables[k]? = some u ∧ p ∈ u.outlines := by
  obtain ⟨u, hu, hp⟩ := mem_outlines.mp hp
  rcases eq_or_of_mem_modify hu hi with rfl | ⟨k, hk, huk⟩
  · exact .inl hp
  · exact .inr ⟨k, u, hk, huk, hp⟩

/-- Nothing but what was there is left of a table that loses columns. -/
lemma mem_outlines_of_modify_subset (hi : tables[i]? = some t)
    (hf : (f t).outlines ⊆ t.outlines) (hp : p ∈ outlines (tables.modify i f)) :
    p ∈ outlines tables := by
  rcases mem_outlines_modify hi hp with hp | ⟨k, u, -, hu, hp⟩
  · exact mem_outlines.mpr ⟨t, List.mem_of_getElem? hi, hf hp⟩
  · exact mem_outlines.mpr ⟨u, List.mem_of_getElem? hu, hp⟩

lemma Table.outlines_append (t : Table) (c : Column) :
    (t.append c).outlines = t.outlines ++ [⟨t.name, c.outline⟩] :=
  Column.IsKeyBlind.map_append (g := fun d => (⟨t.name, d.outline⟩ : Outline))
    (fun _ _ _ _ => rfl) c

lemma Table.outlines_put (t : Table) (j : ℕ) (isNewKey : Bool) (c : Column) :
    (t.put j isNewKey c).outlines = t.outlines.set j ⟨t.name, c.outline⟩ :=
  Column.IsKeyBlind.map_put (g := fun d => (⟨t.name, d.outline⟩ : Outline))
    (fun _ _ _ _ => rfl) j isNewKey c

/-- An added column is shown besides the others. -/
lemma mem_outlines_append (hi : tables[i]? = some t) {c : Column}
    (hp : p ∈ outlines (tables.modify i (Table.append c))) :
    p = ⟨t.name, c.outline⟩ ∨ p ∈ outlines tables := by
  rcases mem_outlines_modify hi hp with hp | ⟨k, u, -, hu, hp⟩
  · rw [Table.outlines_append, List.mem_append, List.mem_singleton] at hp
    exact hp.symm.imp_right fun hp => mem_outlines.mpr ⟨t, List.mem_of_getElem? hi, hp⟩
  · exact .inr (mem_outlines.mpr ⟨u, List.mem_of_getElem? hu, hp⟩)

end Change

/-! ### A column in the place of another one -/

lemma Table.getElem?_outlines {t : Table} {j : ℕ} {c : Column} (hj : t.columns[j]? = some c) :
    t.outlines[j]? = some ⟨t.name, c.outline⟩ := by
  rw [outlines, List.getElem?_map, hj, Option.map_some]

lemma Table.table_of_mem_outlines {t : Table} {p : Outline} (hp : p ∈ t.outlines) :
    p.table = t.name := by
  obtain ⟨c, -, rfl⟩ := mem_outlines.mp hp
  rfl

/-- Names tell the places of columns in a table apart. -/
lemma Table.WellFormed.outline_place {t : Table} (h : t.WellFormed) {j k : ℕ} {p q : Outline}
    (hj : t.outlines[j]? = some p) (hk : t.outlines[k]? = some q) (hnames : p.SameNames q) :
    j = k := by
  have hdistinct : DistinctNames (t.outlines.map fun p => p.column.name) := by
    rw [outlines, List.map_map]
    exact h.distinct
  refine hdistinct.eq_of_match ?_ ?_ hnames.2
  · rw [List.getElem?_map, hj, Option.map_some]
  · rw [List.getElem?_map, hk, Option.map_some]

namespace Schema.WellFormed

variable {s : Schema} {p : Outline} {i j : ℕ} {t : Table} {current : Column}

/-- A column put in the place of another one is shown instead of it, and the others stay. -/
lemma mem_outlines_put_iff (h : s.WellFormed) (hi : s.tables[i]? = some t)
    (hj : t.columns[j]? = some current) {isNewKey : Bool} {placed : Column} :
    p ∈ outlines (s.tables.modify i (Table.put j isNewKey placed)) ↔
      p = ⟨t.name, placed.outline⟩
        ∨ p ∈ outlines s.tables ∧ ¬p.SameNames ⟨t.name, current.outline⟩ := by
  have hmem := List.mem_of_getElem? hi
  have hplace := Table.getElem?_outlines hj
  have hput := t.outlines_put j isNewKey placed
  rw [List.set_eq_modify] at hput
  constructor
  · intro hp
    rcases mem_outlines_modify hi hp with hp | ⟨k, u, hk, hu, hp⟩
    · rw [hput] at hp
      rcases eq_or_of_mem_modify hp hplace with rfl | ⟨k, hk, hp⟩
      · exact .inl rfl
      · exact .inr ⟨mem_outlines.mpr ⟨t, hmem, List.mem_of_getElem? hp⟩,
          fun hnames => hk ((h.tables t hmem).outline_place hp hplace hnames)⟩
    · refine .inr ⟨mem_outlines.mpr ⟨u, List.mem_of_getElem? hu, hp⟩, fun hnames => hk ?_⟩
      exact h.hasDistinctNames.table_place hu hi (Table.table_of_mem_outlines hp ▸ hnames.1)
  · rintro (rfl | ⟨hp, hnames⟩)
    · refine mem_outlines.mpr ⟨_, mem_modify_of_getElem? hi, ?_⟩
      rw [hput]
      exact mem_modify_of_getElem? hplace
    · obtain ⟨u, hu, hp⟩ := mem_outlines.mp hp
      rcases mem_modify_of_mem hu hi with rfl | hu'
      · refine mem_outlines.mpr ⟨_, mem_modify_of_getElem? hi, ?_⟩
        rw [hput]
        rcases mem_modify_of_mem hp hplace with rfl | hp'
        · exact absurd ⟨namesMatch_refl _, namesMatch_refl _⟩ hnames
        · exact hp'
      · exact mem_outlines.mpr ⟨u, hu', hp⟩

end Schema.WellFormed

end SchemaDesigner
