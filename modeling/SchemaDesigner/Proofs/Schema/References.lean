/-
References of a designed schema: none of them dangles, whatever commands have been run.

* `Reference.Resolves`: some table and some column of it have the names of the reference;
* `tableNamed?_perm`, `Relationship.ofTables_perm`, `StaleReference.ofTables_perm`: the order of the
  tables does not matter for what references lead to;
* `Schema.Closed`: all references of a schema resolve;
* `Schema.Closed.apply`: each accepted change leaves a closed schema closed;
* `Relationship.Describes`: the edge that belongs to a referring column;
* `Schema.references_run_empty`: in the schemas built from nothing all references resolve, none is
  stale for want of a table or a column, and each has its edge.
-/
import SchemaDesigner.Proofs.Schema.WellFormed

namespace SchemaDesigner

/-! ### Resolution -/

/-- Some table has the name of the reference, and some column of it has the other name. -/
def Reference.Resolves (tables : List Table) (r : Reference) : Prop :=
  ∃ t ∈ tables, namesMatch t.name r.table = true
    ∧ ∃ c ∈ t.columns, namesMatch c.name r.column = true

/-- All references of the table lead into the given tables. -/
def Table.RefersInto (tables : List Table) (t : Table) : Prop :=
  ∀ c ∈ t.columns, ∀ r, c.reference = some r → r.Resolves tables

/-- All references of the schema resolve. -/
def Schema.Closed (s : Schema) : Prop :=
  ∀ t ∈ s.tables, t.RefersInto s.tables

section Resolves

variable {tables tables' : List Table} {r : Reference}

lemma Reference.names_iff {table column : String} : r.names table column = true
    ↔ namesMatch table r.table = true ∧ namesMatch column r.column = true := by
  rw [Reference.names, Bool.and_eq_true]
  exact ⟨.imp namesMatch_symm namesMatch_symm, .imp namesMatch_symm namesMatch_symm⟩

/-- A reference names what has the names that it spells. -/
lemma Reference.names_self (r : Reference) : r.names r.table r.column = true :=
  Reference.names_iff.mpr ⟨namesMatch_refl _, namesMatch_refl _⟩

/-- A reference may spell the name of the table as the table does. -/
lemma Reference.names_of_names {table column : String} (h : r.names table column = true) :
    Reference.names ⟨table, r.column⟩ table column = true :=
  Reference.names_iff.mpr ⟨namesMatch_refl _, (Reference.names_iff.mp h).2⟩

/-- What passes the gate resolves. -/
lemma resolves_of_checkReference {owner : String} {source : ColumnDef} {u : Unit}
    (h : checkReference tables owner source r = .ok u) : r.Resolves tables := by
  obtain ⟨t, ht, c, hc, -⟩ := checkReference_eq_ok.mp h
  obtain ⟨htmem, htname⟩ := tableNamed?_eq_some ht
  exact ⟨t, htmem, htname, c, Table.column?_eq_some hc⟩

lemma resolves_of_checkOwnReference {owner : String} {source : ColumnDef} {u : Unit}
    (h : checkOwnReference tables owner source = .ok u) (hr : source.reference = some r) :
    r.Resolves tables := by
  rw [checkOwnReference, hr] at h
  exact resolves_of_checkReference h

/-- A reference of a replacement that was let pass was there before or resolves. -/
lemma eq_or_resolves_of_replacement {owner : String} {current replacement : ColumnDef}
    (h : Schema.bringsReference current replacement = true →
      checkOwnReference tables owner replacement = .ok ())
    (hr : replacement.reference = some r) : current.reference = some r ∨ r.Resolves tables := by
  cases hbrings : Schema.bringsReference current replacement with
  | true => exact .inr (resolves_of_checkOwnReference (h hbrings) hr)
  | false =>
    simp only [Schema.bringsReference, Bool.or_eq_false_iff, bne_eq_false_iff_eq] at hbrings
    exact .inl (hbrings.1 ▸ hr)

/-- A reference still resolves if each table is followed by one of its name with columns of the
names of its columns. -/
lemma Reference.Resolves.mono (h : r.Resolves tables)
    (hkeep : ∀ t ∈ tables, ∃ t' ∈ tables', t'.name = t.name
      ∧ ∀ c ∈ t.columns, ∃ c' ∈ t'.columns, c'.name = c.name) : r.Resolves tables' := by
  obtain ⟨t, ht, htname, c, hc, hcname⟩ := h
  obtain ⟨t', ht', hname, hcolumns⟩ := hkeep t ht
  obtain ⟨c', hc', hname'⟩ := hcolumns c hc
  exact ⟨t', ht', hname ▸ htname, c', hc', hname' ▸ hcname⟩

/-- Of tables with distinct names, the one that a name denotes is the only one with that name. -/
lemma tableNamed?_eq_some_iff (hnames : DistinctNames (tables.map fun t => t.name)) {name : String}
    {t : Table} :
    tableNamed? tables name = some t ↔ t ∈ tables ∧ namesMatch t.name name = true :=
  hnames.find?_eq_some_iff

lemma tableNamed?_eq_none_iff {name : String} :
    tableNamed? tables name = none ↔ ∀ t ∈ tables, namesMatch t.name name = false := by
  simp [tableNamed?]

/-- A reference that resolves is found by its names, if these are distinct. -/
lemma Reference.Resolves.exists_tableNamed? (h : r.Resolves tables)
    (hnames : DistinctNames (tables.map fun t => t.name)) :
    ∃ t, tableNamed? tables r.table = some t ∧ (t.column? r.column).isSome = true := by
  obtain ⟨t, ht, htname, hcolumn⟩ := h
  exact ⟨t, (tableNamed?_eq_some_iff hnames).mpr ⟨ht, htname⟩, Table.isSome_column?_iff.mpr hcolumn⟩

end Resolves

/-! ### Tables in another order -/

section Order

variable {tables tables' : List Table}

lemma tableNamed?_perm (h : tables.Perm tables')
    (hnames : DistinctNames (tables.map fun t => t.name)) (name : String) :
    tableNamed? tables name = tableNamed? tables' name := by
  have hnames' := (DistinctNames.perm_iff (h.map _)).mp hnames
  ext t
  rw [tableNamed?_eq_some_iff hnames, tableNamed?_eq_some_iff hnames', h.mem_iff]

/-- Tables in another order have the same relationships, in another order. -/
lemma Relationship.ofTables_perm (h : tables.Perm tables')
    (hnames : DistinctNames (tables.map fun t => t.name)) :
    (Relationship.ofTables tables).Perm (Relationship.ofTables tables') := by
  have hsame : Relationship.ofTable tables = Relationship.ofTable tables' := by
    funext t
    simp only [ofTable, tableNamed?_perm h hnames]
  rw [ofTables, ofTables, hsame]
  exact h.flatMap_right _

/-- They have the same stale references, too. -/
lemma StaleReference.ofTables_perm (h : tables.Perm tables')
    (hnames : DistinctNames (tables.map fun t => t.name)) :
    (StaleReference.ofTables tables).Perm (StaleReference.ofTables tables') := by
  have hsame : StaleReference.ofTable tables = StaleReference.ofTable tables' := by
    funext t
    simp only [ofTable, Reference.staleReason?, tableNamed?_perm h hnames]
  rw [ofTables, ofTables, hsame]
  exact h.flatMap_right _

end Order

/-! ### What references see of a table -/

/-- What a column means for references: its name and its own reference. -/
def Column.label (c : Column) : String × Option Reference :=
  (c.name, c.reference)

namespace Table

variable {t : Table}

lemma labels_append (c : Column) :
    (t.append c).columns.map Column.label = t.columns.map Column.label ++ [c.label] :=
  Column.IsKeyBlind.map_append (fun _ _ _ _ => rfl) c

lemma labels_put (j : ℕ) (isNewKey : Bool) (c : Column) :
    (t.put j isNewKey c).columns.map Column.label
      = (t.columns.map Column.label).set j c.label :=
  Column.IsKeyBlind.map_put (fun _ _ _ _ => rfl) j isNewKey c

lemma labels_soleKeyAt (j : ℕ) (cs : List Column) :
    (soleKeyAt j cs).map Column.label = cs.map Column.label :=
  Column.IsKeyBlind.map_soleKeyAt (fun _ _ _ _ => rfl) j cs

lemma refersInto_iff {tables : List Table} : t.RefersInto tables ↔
    ∀ l ∈ t.columns.map Column.label, ∀ r, l.2 = some r → r.Resolves tables := by
  rw [List.forall_mem_map]
  rfl

end Table

/-! ### References through a change -/

/-- The table `t'` has the name of `t` and columns of the names of its columns. -/
def Table.Covers (t' t : Table) : Prop :=
  t'.name = t.name ∧ ∀ c ∈ t.columns, ∃ c' ∈ t'.columns, c'.name = c.name

lemma Table.Covers.of_labels {t t' : Table} (hname : t'.name = t.name)
    (h : t.columns.map Column.label ⊆ t'.columns.map Column.label) : t'.Covers t := by
  refine ⟨hname, fun c hc => ?_⟩
  obtain ⟨c', hc', hlabel⟩ := List.mem_map.mp (h (List.mem_map_of_mem hc))
  exact ⟨c', hc', congrArg Prod.fst hlabel⟩

lemma Table.Covers.of_names_eq {t t' : Table} (hname : t'.name = t.name)
    (h : t'.columns.map (fun c => c.name) = t.columns.map fun c => c.name) : t'.Covers t := by
  refine ⟨hname, fun c hc => List.mem_map.mp ?_⟩
  rw [h]
  exact List.mem_map_of_mem hc

/-- Each table with its references replaced or dropped, by what they are references of. -/
def mapAllReferences (f : String → ColumnDef → Reference → Option Reference)
    (tables : List Table) : List Table :=
  tables.map fun t =>
    { t with columns := t.columns.map fun c => c.modify fun d => d.mapReference (f t.name d) }

namespace Schema.Closed

variable {s s' : Schema} {i : ℕ} {table : Table} {f : Table → Table}

lemma of_tables {tables : List Table} (hs : s.tables = tables) (h : Closed ⟨tables⟩) :
    s.Closed := by
  subst hs
  exact h

lemma refersInto_modify (h : s.Closed) (hi : s.tables[i]? = some table)
    (hnew : (f table).RefersInto s.tables) :
    ∀ t ∈ s.tables.modify i f, t.RefersInto s.tables := by
  refine forall_mem_modify h fun t ht => ?_
  obtain rfl := Option.some.inj (hi.symm.trans ht)
  exact hnew

/-- References stay resolved if a table makes place for one that covers it. -/
lemma resolves_modify (hi : s.tables[i]? = some table) (hcovers : (f table).Covers table)
    {r : Reference} (hr : r.Resolves s.tables) : r.Resolves (s.tables.modify i f) := by
  refine hr.mono fun t ht => ?_
  rcases mem_modify_of_mem (f := f) ht hi with rfl | ht'
  · exact ⟨f t, mem_modify_of_getElem? hi, hcovers⟩
  · exact ⟨t, ht', rfl, fun c hc => ⟨c, hc, rfl⟩⟩

lemma modify (h : s.Closed) (hi : s.tables[i]? = some table) (hcovers : (f table).Covers table)
    (hnew : (f table).RefersInto s.tables) : Closed ⟨s.tables.modify i f⟩ :=
  fun t ht c hc r hr => resolves_modify hi hcovers (h.refersInto_modify hi hnew t ht c hc r hr)

/-- Where all references are replaced, each replacement has to resolve. -/
lemma mapAllReferences {g : String → ColumnDef → Reference → Option Reference}
    {tables : List Table} (h : ∀ t ∈ tables, t.RefersInto s.tables)
    (hg : ∀ owner source r r', r.Resolves s.tables → g owner source r = some r' →
      r'.Resolves tables) : Closed ⟨mapAllReferences g tables⟩ := by
  intro t ht c hc r hr
  obtain ⟨u, hu, rfl⟩ := List.mem_map.mp ht
  obtain ⟨d, hd, rfl⟩ := List.mem_map.mp hc
  obtain ⟨r₀, hr₀, hg₀⟩ := Option.bind_eq_some_iff.mp hr
  refine (hg u.name d.toColumnDef r₀ r (h u hu d hd r₀ hr₀) hg₀).mono fun v hv => ?_
  refine ⟨_, List.mem_map_of_mem hv, rfl, fun c hc => ?_⟩
  exact ⟨_, List.mem_map_of_mem hc, rfl⟩

lemma withReference (h : s.Closed) (hi : s.tables[i]? = some table) {j : ℕ}
    {r : Option Reference} (hr : ∀ r', r = some r' → r'.Resolves s.tables) :
    (s.withReference i j r).Closed := by
  refine h.modify hi (.of_names_eq rfl (map_modify_of_eq fun _ => rfl)) ?_
  exact forall_mem_modify (h table (List.mem_of_getElem? hi)) fun c _ r' hr' => hr r' hr'

/-! ### Each kind of change -/

lemma addTable {id : TableId} {name : String} (h : s.Closed) (hs : s.addTable id name = .ok s') :
    s'.Closed := by
  obtain ⟨-, -, hs'⟩ := addTable_effect hs
  refine of_tables hs' fun t ht c hc r hr => ?_
  rcases List.mem_append.mp ht with ht | ht
  · exact (h t ht c hc r hr).mono fun u hu =>
      ⟨u, List.mem_append_left _ hu, rfl, fun d hd => ⟨d, hd, rfl⟩⟩
  · rw [List.mem_singleton.mp ht] at hc
    exact absurd hc List.not_mem_nil

/-- The references to a renamed table are those that follow it: no other table has its name. -/
lemma renameTable {id : TableId} {name : String} (h : s.Closed) (hw : s.WellFormed)
    (hs : s.renameTable id name = .ok s') : s'.Closed := by
  obtain ⟨-, -, i, table, hi, renamed, rfl, hs'⟩ := renameTable_effect hs
  have hget := (locate_spec hi).1
  have hmem := List.mem_of_getElem? hget
  refine of_tables hs' (mapAllReferences (g := fun owner d => renamedReference _ table.name
    (Text.trim name) owner d) (forall_mem_modify h fun t ht => h t (List.mem_of_getElem? ht)) ?_)
  rintro owner source r r' ⟨t, ht, htname, hcolumn⟩ hr'
  rw [renamedReference] at hr'
  split_ifs at hr' with hold hnew
  · -- the reference follows its table
    obtain rfl := Option.some.inj hr'
    obtain rfl := hw.distinct.eq_of_mem ht hmem (namesMatch_trans htname hold)
    exact ⟨_, mem_modify_of_getElem? hget, namesMatch_refl _, hcolumn⟩
  · split at hr'
    · rename_i hcheck
      obtain rfl := Option.some.inj hr'
      exact resolves_of_checkReference hcheck
    · cases hr'
  · -- the reference is to another table
    obtain rfl := Option.some.inj hr'
    rcases mem_modify_of_mem ht hget with rfl | ht'
    · exact absurd (namesMatch_symm htname) hold
    · exact ⟨t, ht', htname, hcolumn⟩

lemma deleteTable {id : TableId} (h : s.Closed) (hs : s.deleteTable id = .ok s') : s'.Closed := by
  obtain ⟨i, table, hi, hs'⟩ := deleteTable_effect hs
  refine of_tables hs' (mapAllReferences
    (g := fun _ _ r => if namesMatch r.table table.name then none else some r)
    (fun t ht => h t (List.mem_of_mem_eraseIdx ht)) ?_)
  rintro - - r r' ⟨t, ht, htname, hcolumn⟩ hr'
  split_ifs at hr' with hname
  obtain rfl := Option.some.inj hr'
  rcases mem_eraseIdx_of_mem ht (locate_spec hi).1 with rfl | ht'
  · exact absurd (namesMatch_symm htname) hname
  · exact ⟨t, ht', htname, hcolumn⟩

lemma addColumn {id : TableId} {column : Column} (h : s.Closed)
    (hs : s.addColumn id column = .ok s') : s'.Closed := by
  obtain ⟨i, table, hi, -, added, -, -, hcheck, hs'⟩ := addColumn_effect hs
  have hget := (locate_spec hi).1
  have htable := h table (List.mem_of_getElem? hget)
  have hadded : ∀ r, added.reference = some r → r.Resolves s.tables := fun r hr =>
    resolves_of_checkOwnReference hcheck hr
  refine of_tables hs' (h.modify hget (.of_labels rfl ?_) (Table.refersInto_iff.mpr ?_))
  · rw [Table.labels_append]
    exact List.subset_append_left _ _
  · rw [Table.labels_append]
    intro l hl r hr
    rcases List.mem_append.mp hl with hl | hl
    · exact Table.refersInto_iff.mp htable l hl r hr
    · rw [List.mem_singleton.mp hl] at hr
      exact hadded r hr

section Put

variable {j : ℕ} {isNewKey : Bool} {current placed : Column} {r : Reference}

/-- A column put in a place answers to references to its name. -/
lemma resolves_put_self (hi : s.tables[i]? = some table) (hj : table.columns[j]? = some current)
    (htable : namesMatch table.name r.table = true)
    (hcolumn : namesMatch placed.name r.column = true) :
    r.Resolves (s.tables.modify i (Table.put j isNewKey placed)) := by
  have hmem : placed.label ∈ (table.put j isNewKey placed).columns.map Column.label := by
    rw [Table.labels_put]
    refine List.mem_set ?_ _
    rw [List.length_map]
    exact (List.getElem?_eq_some_iff.mp hj).1
  obtain ⟨c, hc, hlabel⟩ := List.mem_map.mp hmem
  have hname : c.name = placed.name := congrArg Prod.fst hlabel
  exact ⟨_, mem_modify_of_getElem? hi, htable, c, hc, hname ▸ hcolumn⟩

/-- A reference either resolves as before or is to the column in whose place another one is put. -/
lemma resolves_put (hi : s.tables[i]? = some table) (hj : table.columns[j]? = some current)
    (hr : r.Resolves s.tables) : r.Resolves (s.tables.modify i (Table.put j isNewKey placed))
      ∨ namesMatch table.name r.table = true ∧ namesMatch current.name r.column = true := by
  obtain ⟨t, ht, htname, c, hc, hcname⟩ := hr
  rcases mem_modify_of_mem ht hi with rfl | ht'
  · have hlabel : (t.columns.map Column.label)[j]? = some current.label := by
      rw [List.getElem?_map, hj]
      rfl
    rcases mem_modify_of_mem (f := fun _ => placed.label) (List.mem_map_of_mem hc) hlabel with
      hsame | hmem
    · have hname : c.name = current.name := congrArg Prod.fst hsame
      exact .inr ⟨htname, hname ▸ hcname⟩
    · rw [← List.set_eq_modify, ← Table.labels_put j isNewKey] at hmem
      obtain ⟨d, hd, hdc⟩ := List.mem_map.mp hmem
      have hname : d.name = c.name := congrArg Prod.fst hdc
      exact .inl ⟨_, mem_modify_of_getElem? hi, htname, d, hd, hname ▸ hcname⟩
  · exact .inl ⟨t, ht', htname, c, hc, hcname⟩

end Put

lemma updateColumn {id : TableId} {name : String} {replacement : Column} (h : s.Closed)
    (hs : s.updateColumn id name replacement = .ok s') : s'.Closed := by
  obtain ⟨i, table, hi, j, current, hj, -, placed, -, -, hcheck, hs'⟩ := updateColumn_effect hs
  have hget := (locate_spec hi).1
  have htable := h table (List.mem_of_getElem? hget)
  have hcolumn := (Table.locate_spec hj).1
  have hplaced : ∀ r, placed.reference = some r → r.Resolves s.tables := by
    intro r hr
    obtain hsame | hnew := eq_or_resolves_of_replacement hcheck hr
    · exact htable current (List.mem_of_getElem? hcolumn) r hsame
    · exact hnew
  have hold : ∀ t ∈ s.tables.modify i
      (Table.put j (placed.primaryKey && !current.primaryKey) placed), t.RefersInto s.tables := by
    refine h.refersInto_modify hget ?_
    rw [Table.refersInto_iff, Table.labels_put]
    intro l hl r hr
    rcases List.mem_or_eq_of_mem_set hl with hl | rfl
    · exact Table.refersInto_iff.mp htable l hl r hr
    · exact hplaced r hr
  refine of_tables hs' (mapAllReferences (g := fun _ _ r => some
    (if !namesMatch current.name placed.name && r.names table.name current.name then
      { r with column := placed.name } else r)) hold ?_)
  rintro - - r r' hr hr'
  obtain rfl := Option.some.inj hr'
  split_ifs with hfollow
  · simp only [Reference.names, Bool.and_eq_true] at hfollow
    exact resolves_put_self hget hcolumn (namesMatch_symm hfollow.2.1) (namesMatch_refl _)
  · rcases resolves_put hget hcolumn hr with hkept | ⟨htname, hcname⟩
    · exact hkept
    · -- the reference is to the replaced column, whose new name matches the old one
      refine resolves_put_self hget hcolumn htname (namesMatch_trans (namesMatch_symm ?_) hcname)
      by_contra hrenamed
      refine hfollow ?_
      simp only [Bool.and_eq_true, Bool.not_eq_true', Bool.not_eq_true, Reference.names]
        at hrenamed ⊢
      exact ⟨hrenamed, namesMatch_symm htname, namesMatch_symm hcname⟩

lemma removeColumn {id : TableId} {name : String} (h : s.Closed)
    (hs : s.removeColumn id name = .ok s') : s'.Closed := by
  obtain ⟨i, table, hi, j, removed, hj, hs'⟩ := removeColumn_effect hs
  have hget := (locate_spec hi).1
  have hcolumn := (Table.locate_spec hj).1
  refine of_tables hs' (mapAllReferences
    (g := fun _ _ r => if r.names table.name removed.name then none else some r)
    (h.refersInto_modify hget fun c hc =>
      h table (List.mem_of_getElem? hget) c (List.mem_of_mem_eraseIdx hc)) ?_)
  rintro - - r r' ⟨t, ht, htname, c, hc, hcname⟩ hr'
  split_ifs at hr' with hnames
  obtain rfl := Option.some.inj hr'
  rcases mem_modify_of_mem ht hget with rfl | ht'
  · rcases mem_eraseIdx_of_mem hc hcolumn with rfl | hc'
    · refine absurd ?_ hnames
      simp only [Reference.names, Bool.and_eq_true]
      exact ⟨namesMatch_symm htname, namesMatch_symm hcname⟩
    · exact ⟨_, mem_modify_of_getElem? hget, htname, c, hc', hcname⟩
  · exact ⟨t, ht', htname, c, hc, hcname⟩

lemma setForeignKey {id targetId : TableId} {name targetName : String} (h : s.Closed)
    (hs : s.setForeignKey id name targetId targetName = .ok s') : s'.Closed := by
  obtain ⟨i, table, hi, j, column, -, k, target, -, chosen, -, hcheck, rfl⟩ :=
    setForeignKey_effect hs
  refine h.withReference (locate_spec hi).1 fun r hr => ?_
  obtain rfl := Option.some.inj hr
  exact resolves_of_checkReference hcheck

/-- Each accepted change leaves a closed schema closed. -/
theorem apply {fresh : TableId} {command : Command} (h : s.Closed) (hw : s.WellFormed)
    (hs : s.apply fresh command = .ok s') : s'.Closed := by
  cases command with
  | addTable name => exact h.addTable hs
  | renameTable id name => exact h.renameTable hw hs
  | deleteTable id => exact h.deleteTable hs
  | moveTable id position =>
    obtain ⟨i, table, hi, hs'⟩ := moveTable_effect hs
    have hget := (locate_spec hi).1
    exact of_tables hs' (h.modify hget (.of_names_eq rfl rfl) (h table (List.mem_of_getElem? hget)))
  | setComment id comment =>
    obtain ⟨i, table, hi, hs'⟩ := setComment_effect hs
    have hget := (locate_spec hi).1
    exact of_tables hs' (h.modify hget (.of_names_eq rfl rfl) (h table (List.mem_of_getElem? hget)))
  | addColumn id column => exact h.addColumn hs
  | updateColumn id name replacement => exact h.updateColumn hs
  | removeColumn id name => exact h.removeColumn hs
  | setPrimaryKey id name =>
    obtain ⟨i, table, hi, j, chosen, -, hs'⟩ := setPrimaryKey_effect hs
    have hget := (locate_spec hi).1
    have htable := h table (List.mem_of_getElem? hget)
    refine of_tables hs' (h.modify hget (.of_labels rfl ?_) (Table.refersInto_iff.mpr ?_))
    · rw [Table.labels_soleKeyAt]
      exact List.Subset.refl _
    · rw [Table.labels_soleKeyAt]
      exact Table.refersInto_iff.mp htable
  | setForeignKey id name targetId targetName => exact h.setForeignKey hs
  | connect id name targetId targetName => exact h.setForeignKey hs
  | clearForeignKey id name =>
    obtain ⟨i, table, hi, j, column, -, rfl⟩ := clearForeignKey_effect hs
    exact h.withReference (locate_spec hi).1 fun r hr => absurd hr (Option.some_ne_none r).symm

end Schema.Closed

/-! ### Edges and warnings -/

/-- The columns that refer to others, with their tables and references, in order. -/
def Schema.referringColumns (s : Schema) : List (Table × Column × Reference) :=
  s.tables.flatMap fun t => t.references.map fun p => (t, p)

/-- The edge leads from the referring column to the table, among the given ones, that the reference
names. -/
structure Relationship.Describes (tables : List Table) (e : Relationship)
    (p : Table × Column × Reference) : Prop where
  sourceTable : e.sourceTable = p.1.name
  sourceColumn : e.sourceColumn = p.2.1.name
  targetTable : ∃ t ∈ tables, t.name = e.targetTable ∧ namesMatch t.name p.2.2.table = true
  targetColumn : e.targetColumn = p.2.2.column
  optional : e.optional = p.2.1.nullable

namespace Schema.Closed

variable {s : Schema}

lemma resolves_of_mem_references (h : s.Closed) {t : Table} (ht : t ∈ s.tables)
    {p : Column × Reference} (hp : p ∈ t.references) : p.2.Resolves s.tables :=
  h t ht p.1 (Table.mem_references.mp hp).1 p.2 (Table.mem_references.mp hp).2

/-- A closed schema has an edge for each referring column. -/
lemma relationships (h : s.Closed) (hw : s.WellFormed) :
    List.Forall₂ (Relationship.Describes s.tables) s.relationships s.referringColumns := by
  refine forall₂_flatMap fun t ht => ?_
  rw [List.forall₂_map_right_iff]
  refine forall₂_filterMap fun p hp => ?_
  obtain ⟨u, hu, -⟩ := (h.resolves_of_mem_references ht hp).exists_tableNamed? hw.distinct
  obtain ⟨humem, huname⟩ := tableNamed?_eq_some hu
  have hedge := congrArg (Option.map fun target : Table => ({
    sourceTable := t.name, sourceColumn := p.1.name, targetTable := target.name,
    targetColumn := p.2.column, optional := p.1.nullable } : Relationship)) hu
  exact ⟨_, hedge, rfl, rfl, ⟨u, humem, rfl, huname⟩, rfl, rfl⟩

/-- In a closed schema a reference is stale only for want of a primary key. -/
lemma reason_of_stale (h : s.Closed) (hw : s.WellFormed) {stale : StaleReference}
    (hs : stale ∈ s.staleReferences) : stale.reason = .notPrimaryKey := by
  obtain ⟨t, ht, hs⟩ := List.mem_flatMap.mp hs
  obtain ⟨p, hp, hs⟩ := List.mem_filterMap.mp hs
  obtain ⟨reason, hreason, rfl⟩ := Option.map_eq_some_iff.mp hs
  obtain ⟨u, hu, hcolumn⟩ := (h.resolves_of_mem_references ht hp).exists_tableNamed? hw.distinct
  obtain ⟨c, hc⟩ := Option.isSome_iff_exists.mp hcolumn
  simp only [Reference.staleReason?, hu, hc] at hreason
  split_ifs at hreason
  exact (Option.some.inj hreason).symm

end Schema.Closed

/-! ### Sequences of commands -/

namespace Schema

/-- Whatever commands are run on the empty schema, each reference names an existing table and an
existing column of it, no reference is stale for want of either, and the relationships are one for
each referring column. -/
theorem references_run_empty {commands : List (TableId × Command)}
    (hfresh : empty.DrawsFresh commands) :
    (∀ t ∈ (empty.run commands).tables, ∀ c ∈ t.columns, ∀ r, c.reference = some r →
        r.Resolves (empty.run commands).tables)
      ∧ (∀ stale ∈ (empty.run commands).staleReferences, stale.reason ≠ .missingTable
        ∧ stale.reason ≠ .missingColumn)
      ∧ List.Forall₂ (Relationship.Describes (empty.run commands).tables)
        (empty.run commands).relationships (empty.run commands).referringColumns := by
  have hboth : (empty.run commands).WellFormed ∧ (empty.run commands).Closed := by
    refine run_induction (P := fun s => s.WellFormed ∧ s.Closed) ?_ hfresh
      ⟨wellFormed_empty, fun _ ht => absurd ht List.not_mem_nil⟩
    rintro s fresh command s' ⟨hw, hc⟩ hnew happly
    exact ⟨hw.apply hnew happly, hc.apply hw happly⟩
  obtain ⟨hw, hc⟩ := hboth
  refine ⟨hc, fun stale hs => ?_, hc.relationships hw⟩
  rw [hc.reason_of_stale hw hs]
  exact ⟨nofun, nofun⟩

/-- After the run there is one relationship, with the present names at both ends. -/
theorem references_sampleCommands : empty.DrawsFresh sampleCommands
    ∧ (empty.run sampleCommands).relationships = [⟨"orders", "user_id", "Users", "id", true⟩]
    ∧ List.Forall₂ (Relationship.Describes (empty.run sampleCommands).tables)
      (empty.run sampleCommands).relationships (empty.run sampleCommands).referringColumns :=
  have hfresh : empty.DrawsFresh sampleCommands := drawsFresh_of_nodup (by decide)
  ⟨hfresh, by decide, (references_run_empty hfresh).2.2⟩

end Schema

end SchemaDesigner
