/-
Schemas that survive being stored, and commands that keep them so.

* `Column.IsLasting`, `Table.IsLasting`, `Schema.IsLasting`: the columns are storable, and nothing
  has a blank name;
* `Column.isKeyBlind_isLasting`: primary keys do not matter for that;
* `Reference.LeadsToNamed`: the reference leads to names that are not blank, so its own are not;
* `Schema.IsLasting.apply`, `Schema.IsLasting.run`: each accepted command, and so each sequence,
  keeps it, if the columns that come with the commands are in normal form.
-/
import SchemaDesigner.Proofs.Schema.References
import SchemaDesigner.Proofs.Wire.Command

namespace SchemaDesigner

/-! ### Columns and tables -/

/-- The column is storable and has a name. -/
structure Column.IsLasting (c : Column) : Prop where
  storable : c.IsStorable
  name : Text.isBlankText c.name = false

/-- The table has a name, and its columns are storable and have names. -/
structure Table.IsLasting (t : Table) : Prop where
  name : Text.isBlankText t.name = false
  columns : ∀ c ∈ t.columns, c.IsLasting

/-- All tables have names and storable columns with names. -/
def Schema.IsLasting (s : Schema) : Prop :=
  ∀ t ∈ s.tables, t.IsLasting

/-- A column that comes with the command is in normal form, whatever it refers to. -/
def Command.IsNormal : Command → Prop
  | addColumn _ column | updateColumn _ _ column => column.IsNormal
  | _ => True

/-- What is in the form in which reading leaves it is in normal form. -/
lemma Command.IsStorable.isNormal {command : Command} (h : command.IsStorable) :
    command.IsNormal := by
  cases command
  case addColumn table column => exact Column.IsStorable.toIsNormal h
  case updateColumn table name column => exact Column.IsStorable.toIsNormal h
  all_goals exact trivial

/-- Whether a column is lasting does not depend on its key. -/
lemma Column.isKeyBlind_isLasting : Column.IsKeyBlind Column.IsLasting := by
  refine fun _ isKey nullable unique => propext ⟨?_, ?_⟩
  · rintro ⟨h, hname⟩
    exact ⟨⟨⟨h.id, h.type, h.size, h.defaultValue⟩, h.reference⟩, hname⟩
  · rintro ⟨h, hname⟩
    exact ⟨⟨⟨h.id, h.type, h.size, h.defaultValue⟩, h.reference⟩, hname⟩

/-- A column in normal form is lasting under any name and identity that are not blank, if its
reference is storable. -/
lemma Column.IsNormal.isLasting {c : Column} (h : c.IsNormal) {name : String} {id : ColumnId}
    (hname : Text.isBlankText name = false) (hid : Text.isBlankText id.text = false)
    (hr : ∀ r ∈ c.reference, r.IsStorable) :
    Column.IsLasting ⟨{ c.toColumnDef with name := name }, id⟩ :=
  ⟨⟨⟨hid, h.type, h.size, h.defaultValue⟩, hr⟩, hname⟩

/-- Another reference, if it is storable, leaves a column lasting. -/
lemma Column.IsLasting.withReference {c : Column} (h : c.IsLasting) {r? : Option Reference}
    (hr : ∀ r ∈ r?, r.IsStorable) : IsLasting { c with reference := r? } :=
  ⟨⟨⟨h.storable.id, h.storable.type, h.storable.size, h.storable.defaultValue⟩, hr⟩, h.name⟩

/-! ### Names that references lead to -/

/-- The reference names a table and a column of it whose names are not blank. -/
def Reference.LeadsToNamed (tables : List Table) (r : Reference) : Prop :=
  ∃ t ∈ tables, namesMatch t.name r.table = true ∧ Text.isBlankText t.name = false
    ∧ ∃ c ∈ t.columns, namesMatch c.name r.column = true ∧ Text.isBlankText c.name = false

namespace Reference.LeadsToNamed

variable {tables : List Table} {r : Reference}

/-- A reference that leads to named columns resolves. -/
lemma resolves (h : r.LeadsToNamed tables) : r.Resolves tables := by
  obtain ⟨t, ht, htname, -, c, hc, hcname, -⟩ := h
  exact ⟨t, ht, htname, c, hc, hcname⟩

/-- Its names match names that are not blank, so it is storable. -/
lemma isStorable (h : r.LeadsToNamed tables) : r.IsStorable := by
  obtain ⟨t, -, htname, htable, c, -, hcname, hcolumn⟩ := h
  rw [Text.isBlankText_eq_of_match htname] at htable
  rw [Text.isBlankText_eq_of_match hcname] at hcolumn
  exact ⟨htable, hcolumn⟩

end Reference.LeadsToNamed

/-! ### Tables through a change -/

namespace Table.IsLasting

variable {t : Table}

/-- Lasting is told from the columns without regard to keys. -/
lemma of_map (hname : Text.isBlankText t.name = false)
    (h : ∀ p ∈ t.columns.map Column.IsLasting, p) : t.IsLasting :=
  ⟨hname, fun _ hc => h _ (List.mem_map_of_mem hc)⟩

lemma forall_map (h : t.IsLasting) : ∀ p ∈ t.columns.map Column.IsLasting, p :=
  List.forall_mem_map.mpr h.columns

lemma append (h : t.IsLasting) {c : Column} (hc : c.IsLasting) : (t.append c).IsLasting := by
  refine of_map h.name ?_
  rw [Column.isKeyBlind_isLasting.map_append, List.forall_mem_append]
  exact ⟨h.forall_map, List.forall_mem_singleton.mpr hc⟩

lemma put (h : t.IsLasting) {c : Column} (hc : c.IsLasting) (j : ℕ) (isNewKey : Bool) :
    (t.put j isNewKey c).IsLasting := by
  refine of_map h.name ?_
  rw [Column.isKeyBlind_isLasting.map_put]
  intro p hp
  obtain hp | rfl := List.mem_or_eq_of_mem_set hp
  · exact h.forall_map p hp
  · exact hc

lemma soleKeyAt (h : t.IsLasting) (j : ℕ) :
    IsLasting { t with columns := Table.soleKeyAt j t.columns } := by
  refine of_map h.name ?_
  rw [Column.isKeyBlind_isLasting.map_soleKeyAt]
  exact h.forall_map

lemma eraseIdx (h : t.IsLasting) (j : ℕ) :
    IsLasting { t with columns := t.columns.eraseIdx j } :=
  ⟨h.name, fun c hc => h.columns c (List.mem_of_mem_eraseIdx hc)⟩

/-- References may be replaced by storable ones. -/
lemma mapColumns (h : t.IsLasting) {f : ColumnDef → Reference → Option Reference}
    (hf : ∀ d r, r.IsStorable → ∀ r' ∈ f d r, r'.IsStorable) :
    IsLasting
      { t with columns := t.columns.map fun c => c.modify fun d => d.mapReference (f d) } := by
  refine ⟨h.name, List.forall_mem_map.mpr fun c hc => (h.columns c hc).withReference ?_⟩
  intro r' hr'
  obtain ⟨r, hr, hf'⟩ := Option.bind_eq_some_iff.mp hr'
  exact hf _ r ((h.columns c hc).storable.reference r hr) r' hf'

end Table.IsLasting

namespace Schema.IsLasting

variable {s s' : Schema} {i : ℕ} {f : Table → Table}

/-- A schema is lasting if its tables are. -/
lemma of_tables {tables : List Table} (hs : s.tables = tables) (h : ∀ t ∈ tables, t.IsLasting) :
    s.IsLasting := by
  rw [IsLasting, hs]
  exact h

lemma modify (h : s.IsLasting) (hf : ∀ t, t.IsLasting → (f t).IsLasting) :
    ∀ t ∈ s.tables.modify i f, t.IsLasting :=
  forall_mem_modify h fun t ht => hf t (h t (List.mem_of_getElem? ht))

/-- Tables stay lasting when their references are changed to storable ones or dropped. -/
lemma mapReferences {tables : List Table} (h : ∀ t ∈ tables, t.IsLasting)
    {f : Reference → Option Reference} (hf : ∀ r, r.IsStorable → ∀ r' ∈ f r, r'.IsStorable) :
    ∀ t ∈ tables.map (Table.mapReferences f), t.IsLasting :=
  List.forall_mem_map.mpr fun t ht => (h t ht).mapColumns fun _ => hf

/-- References may be dropped. -/
lemma dropReferences {tables : List Table} (h : ∀ t ∈ tables, t.IsLasting)
    {p : Reference → Prop} [DecidablePred p] :
    ∀ t ∈ tables.map (Table.mapReferences fun r => if p r then none else some r), t.IsLasting := by
  refine mapReferences h fun r hr r' hr' => ?_
  exact Option.some.inj (Option.mem_ite_none_left.mp hr').2 ▸ hr

/-- A column may get a storable reference or lose its own. -/
lemma withReference (h : s.IsLasting) {j : ℕ} {r? : Option Reference}
    (hr : ∀ r ∈ r?, r.IsStorable) : (s.withReference i j r?).IsLasting :=
  h.modify fun _ ht => ⟨ht.name, forall_mem_modify ht.columns fun c hc =>
    (ht.columns c (List.mem_of_getElem? hc)).withReference hr⟩

/-- What resolves leads to names that are not blank. -/
lemma leadsToNamed (h : s.IsLasting) {r : Reference} (hr : r.Resolves s.tables) :
    r.LeadsToNamed s.tables := by
  obtain ⟨t, ht, htname, c, hc, hcname⟩ := hr
  exact ⟨t, ht, htname, (h t ht).name, c, hc, hcname, ((h t ht).columns c hc).name⟩

/-- The new name of a table is not blank, nor are the references that follow it. -/
lemma renameTable (h : s.IsLasting) {id : TableId} {name : String}
    (hs : s.renameTable id name = .ok s') : s'.IsLasting := by
  obtain ⟨hne, -, i, table, hi, renamed, hrenamed, hs'⟩ := renameTable_effect hs
  have hnew := Text.isBlankText_trim hne
  have hall : ∀ t ∈ renamed, t.IsLasting := hrenamed ▸ h.modify fun t ht => ⟨hnew, ht.columns⟩
  refine of_tables hs' (List.forall_mem_map.mpr fun t ht => (hall t ht).mapColumns ?_)
  intro d r hr r' hr'
  rw [renamedReference] at hr'
  split_ifs at hr'
  · -- the reference follows its table
    exact Option.some.inj hr' ▸ ⟨hnew, hr.2⟩
  · split at hr'
    · exact Option.some.inj hr' ▸ hr
    · cases hr'
  · exact Option.some.inj hr' ▸ hr

/-- An added column lasts: it is normal, and its reference leads to a named column. -/
lemma addColumn (h : s.IsLasting) {id : TableId} {column : Column} (hc : column.IsNormal)
    (hs : s.addColumn id column = .ok s') : s'.IsLasting := by
  obtain ⟨i, table, -, hne, added, rfl, -, hcheck, hs'⟩ := addColumn_effect hs
  refine of_tables hs' (h.modify fun t ht => ht.append ?_)
  exact hc.isLasting (Text.isBlankText_trim hne) hc.id fun r hr =>
    (h.leadsToNamed (resolves_of_checkOwnReference hcheck hr)).isStorable

lemma updateColumn (h : s.IsLasting) {id : TableId} {name : String} {replacement : Column}
    (hc : replacement.IsNormal) (hs : s.updateColumn id name replacement = .ok s') :
    s'.IsLasting := by
  obtain ⟨i, table, hi, j, current, hj, hne, placed, rfl, -, hcheck, hs'⟩ := updateColumn_effect hs
  have htable := h table (List.mem_of_getElem? (locate_spec hi).1)
  have hcurrent := htable.columns current (List.mem_of_getElem? (Table.locate_spec hj).1)
  have hreference : ∀ r ∈ replacement.reference, r.IsStorable := by
    intro r hr
    obtain hold | hnew := eq_or_resolves_of_replacement hcheck hr
    · exact hcurrent.storable.reference r hold
    · exact (h.leadsToNamed hnew).isStorable
  have hplaced := hc.isLasting (Text.isBlankText_trim hne) hcurrent.storable.id hreference
  refine of_tables hs' (mapReferences (h.modify fun t ht => ht.put hplaced j _) ?_)
  intro r hr r' hr'
  rw [← Option.some.inj hr']
  split_ifs
  · exact ⟨hr.1, hplaced.name⟩
  · exact hr

lemma setForeignKey (h : s.IsLasting) {id targetId : TableId} {name targetName : String}
    (hs : s.setForeignKey id name targetId targetName = .ok s') : s'.IsLasting := by
  obtain ⟨i, table, -, j, column, -, k, target, -, d, -, hcheck, rfl⟩ := setForeignKey_effect hs
  refine h.withReference fun r hr => ?_
  rw [← Option.some.inj hr]
  exact (h.leadsToNamed (resolves_of_checkReference hcheck)).isStorable

/-- Each accepted command keeps a schema lasting, if a column that comes with it is in normal
form. -/
theorem apply {fresh : TableId} {command : Command} (h : s.IsLasting) (hc : command.IsNormal)
    (hs : s.apply fresh command = .ok s') : s'.IsLasting := by
  cases command with
  | addTable name =>
    obtain ⟨hne, -, hs'⟩ := addTable_effect hs
    refine of_tables hs' (List.forall_mem_append.mpr ⟨h, List.forall_mem_singleton.mpr ?_⟩)
    exact ⟨Text.isBlankText_trim hne, fun _ hc => absurd hc List.not_mem_nil⟩
  | renameTable id name => exact h.renameTable hs
  | deleteTable id =>
    obtain ⟨i, table, -, hs'⟩ := deleteTable_effect hs
    exact of_tables hs' (dropReferences fun t ht => h t (List.mem_of_mem_eraseIdx ht))
  | moveTable id position =>
    obtain ⟨i, table, -, hs'⟩ := moveTable_effect hs
    exact of_tables hs' (h.modify fun t ht => ⟨ht.name, ht.columns⟩)
  | setComment id comment =>
    obtain ⟨i, table, -, hs'⟩ := setComment_effect hs
    exact of_tables hs' (h.modify fun t ht => ⟨ht.name, ht.columns⟩)
  | addColumn id column => exact h.addColumn hc hs
  | updateColumn id name replacement => exact h.updateColumn hc hs
  | removeColumn id name =>
    obtain ⟨i, table, -, j, removed, -, hs'⟩ := removeColumn_effect hs
    exact of_tables hs' (dropReferences (h.modify fun t ht => ht.eraseIdx j))
  | setPrimaryKey id name =>
    obtain ⟨i, table, -, j, chosen, -, hs'⟩ := setPrimaryKey_effect hs
    exact of_tables hs' (h.modify fun t ht => ht.soleKeyAt j)
  | setForeignKey id name targetId targetName => exact h.setForeignKey hs
  | connect id name targetId targetName => exact h.setForeignKey hs
  | clearForeignKey id name =>
    obtain ⟨i, table, -, j, column, -, rfl⟩ := clearForeignKey_effect hs
    exact h.withReference fun _ hr => absurd hr (Option.not_mem_none _)

/-- A step keeps a schema lasting, whether its command is accepted or refused. -/
lemma step {command : Command} (h : s.IsLasting) (fresh : TableId) (hc : command.IsNormal) :
    (s.step fresh command).IsLasting := by
  rw [Schema.step]
  cases happly : s.apply fresh command with
  | error e => exact h
  | ok next => exact h.apply hc happly

/-- A sequence of commands keeps a schema lasting. -/
theorem run {commands : List (TableId × Command)} (h : s.IsLasting)
    (hc : ∀ c ∈ commands, c.2.IsNormal) : (s.run commands).IsLasting := by
  induction commands generalizing s with
  | nil => exact h
  | cons entry rest ih =>
    obtain ⟨hfirst, hrest⟩ := List.forall_mem_cons.mp hc
    exact ih (h.step entry.1 hfirst) hrest

end Schema.IsLasting

end SchemaDesigner
