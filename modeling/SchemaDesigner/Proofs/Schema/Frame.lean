/-
What a change leaves as it is: the tables and columns that it does not address, and the references
to what it neither renames nor removes.

* `Command.tableAt?`, `Command.columnAt?`: what a command addresses, with the places;
* `Command.remaining`: the tables before a command, without what the command removes;
* `Command.Touches`: the references that a command rewrites wherever they stand;
* `Command.KeepsColumn`, `Command.KeepsTable`, `Command.Frame`: what a command keeps of a column, of
  a table and of all tables, place by place;
* `Command.Frame.mapAllReferences`, `Command.Frame.modify`: the two ways in which changes go on;
* `Schema.frame_apply`: each accepted change stays within its frame, whatever the schema.
-/
import SchemaDesigner.Proofs.Schema.References

namespace SchemaDesigner

open Schema (withoutKeys)

namespace Command

/-! ### What a command addresses -/

/-- The identity of the table that the command addresses. -/
def tableId? : Command → Option TableId
  | addTable _ => none
  | renameTable id _ | deleteTable id | moveTable id _ | setComment id _ | addColumn id _
  | updateColumn id _ _ | removeColumn id _ | setPrimaryKey id _ | setForeignKey id _ _ _
  | connect id _ _ _ | clearForeignKey id _ => some id

/-- The name of the column that the command addresses. -/
def columnName? : Command → Option String
  | updateColumn _ name _ | removeColumn _ name | setPrimaryKey _ name | setForeignKey _ name _ _
  | connect _ name _ _ | clearForeignKey _ name => some name
  | _ => none

/-- The table addressed, the first one with the identity, and its place. -/
def tableAt? (s : Schema) (command : Command) : Option (ℕ × Table) :=
  command.tableId?.bind fun id => (s.locate id).toOption

/-- The column addressed, the first one of its table with the name, and its place. -/
def columnAt? (s : Schema) (command : Command) : Option (ℕ × Column) :=
  (command.tableAt? s).bind fun p => command.columnName?.bind fun name => (p.2.locate name).toOption

/-- The command addresses the table at the place `i`. -/
def IsAt (s : Schema) (i : ℕ) (command : Command) : Prop :=
  ∃ p ∈ command.tableAt? s, p.1 = i

instance (s : Schema) (i : ℕ) (command : Command) : Decidable (command.IsAt s i) :=
  inferInstanceAs (Decidable (∃ p ∈ command.tableAt? s, p.1 = i))

/-- The command addresses the column at the place `j` of the table at the place `i`. -/
def IsAtColumn (s : Schema) (i j : ℕ) (command : Command) : Prop :=
  command.IsAt s i ∧ ∃ q ∈ command.columnAt? s, q.1 = j

instance (s : Schema) (i j : ℕ) (command : Command) : Decidable (command.IsAtColumn s i j) :=
  inferInstanceAs (Decidable (command.IsAt s i ∧ ∃ q ∈ command.columnAt? s, q.1 = j))

/-- The tables without the one that the command deletes, or without the column that it removes. -/
def remaining (s : Schema) (command : Command) : List Table :=
  match command with
  | deleteTable _ => (command.tableAt? s).elim s.tables fun p => s.tables.eraseIdx p.1
  | removeColumn _ _ => (command.tableAt? s).elim s.tables fun p =>
    (command.columnAt? s).elim s.tables fun q =>
      s.tables.modify p.1 fun t => { t with columns := t.columns.eraseIdx q.1 }
  | _ => s.tables

/-- The identities of the tables that the command adds. -/
def addedTables (fresh : TableId) : Command → List TableId
  | addTable _ => [fresh]
  | _ => []

/-- The identities of the columns that the command adds to the table at the place `i`. -/
def addedColumns (s : Schema) (i : ℕ) (command : Command) : List ColumnId :=
  match command with
  | addColumn _ column => if command.IsAt s i then [column.id] else []
  | _ => []

/-! ### What a command may change -/

/-- The command gives a table another name. -/
def RenamesTable : Command → Prop
  | renameTable _ _ => True
  | _ => False

/-- The command gives a table another comment. -/
def SetsComment : Command → Prop
  | setComment _ _ => True
  | _ => False

/-- The command gives a table another place on the canvas. -/
def MovesTable : Command → Prop
  | moveTable _ _ => True
  | _ => False

/-- The command puts another content in the place of the column that it addresses. -/
def EditsColumn : Command → Prop
  | updateColumn _ _ _ | setPrimaryKey _ _ => True
  | _ => False

/-- The command sets or clears the reference of the column that it addresses. -/
def SetsReference : Command → Prop
  | updateColumn _ _ _ | setForeignKey _ _ _ _ | connect _ _ _ _ | clearForeignKey _ _ => True
  | _ => False

/-- The command makes a column the primary key of the table that it addresses. -/
def MakesKey (s : Schema) (command : Command) : Prop :=
  match command with
  | addColumn _ column => column.primaryKey = true
  | updateColumn _ _ replacement =>
    replacement.primaryKey = true ∧ ∃ q ∈ command.columnAt? s, q.2.primaryKey = false
  | setPrimaryKey _ _ => True
  | _ => False

/-- The reference is to the table that the command renames or deletes, to the name that it gives to
a table, or to the column that it removes or renames. -/
def Touches (s : Schema) (command : Command) (r : Reference) : Prop :=
  ∃ p ∈ command.tableAt? s, match command with
    | renameTable _ name =>
      namesMatch r.table p.2.name = true ∨ namesMatch r.table (Text.trim name) = true
    | deleteTable _ => namesMatch r.table p.2.name = true
    | removeColumn _ _ => ∃ q ∈ command.columnAt? s, r.names p.2.name q.2.name = true
    | updateColumn _ _ replacement => ∃ q ∈ command.columnAt? s,
      namesMatch q.2.name (Text.trim replacement.name) = false
        ∧ r.names p.2.name q.2.name = true
    | _ => False

/-! ### The frame -/

/-- What the command keeps of the column `c` at the place `j` of the table at the place `i`. A
column that it does not edit changes in its reference alone, and ceases to be a primary key if
another column of the table becomes one. -/
structure KeepsColumn (s : Schema) (command : Command) (i j : ℕ) (c c' : Column) : Prop where
  id : c'.id = c.id
  content : command.EditsColumn ∧ command.IsAtColumn s i j
    ∨ c'.toColumnDef
      = { c.toColumnDef with primaryKey := c'.primaryKey, reference := c'.reference }
  primaryKey : command.EditsColumn ∧ command.IsAtColumn s i j
    ∨ c'.primaryKey = c.primaryKey
    ∨ command.MakesKey s ∧ command.IsAt s i ∧ c.primaryKey = true ∧ c'.primaryKey = false
  reference : command.SetsReference ∧ command.IsAtColumn s i j
    ∨ c'.reference = c.reference
    ∨ ∃ r ∈ c.reference, command.Touches s r

/-- What the command keeps of the table `t` at the place `i`: the columns stay in their places, and
a new one follows at the end. -/
structure KeepsTable (s : Schema) (command : Command) (i : ℕ) (t t' : Table) : Prop where
  id : t'.id = t.id
  name : command.RenamesTable ∧ command.IsAt s i ∨ t'.name = t.name
  comment : command.SetsComment ∧ command.IsAt s i ∨ t'.comment = t.comment
  position : command.MovesTable ∧ command.IsAt s i ∨ t'.position = t.position
  columnIds : t'.columns.map (fun c => c.id)
    = t.columns.map (fun c => c.id) ++ command.addedColumns s i
  columns : ∀ j c c', t.columns[j]? = some c → t'.columns[j]? = some c' →
    command.KeepsColumn s i j c c'

/-- What the command keeps of all tables: those that it does not delete stay in their order, and a
new one follows at the end. -/
structure Frame (fresh : TableId) (s : Schema) (command : Command) (tables : List Table) :
    Prop where
  ids : tables.map (fun t => t.id)
    = (command.remaining s).map (fun t => t.id) ++ command.addedTables fresh
  tables : ∀ i t t', (command.remaining s)[i]? = some t → tables[i]? = some t' →
    command.KeepsTable s i t t'

variable {s : Schema} {command : Command} {fresh : TableId} {i j : ℕ}

/-! ### Addresses -/

lemma tableAt?_eq_some {id : TableId} {p : ℕ × Table} (hid : command.tableId? = some id)
    (h : s.locate id = .ok p) : command.tableAt? s = some p := by
  rw [tableAt?, hid, Option.bind_some, h]
  rfl

lemma columnAt?_eq_some {name : String} {p : ℕ × Table} {q : ℕ × Column}
    (htable : command.tableAt? s = some p) (hname : command.columnName? = some name)
    (h : p.2.locate name = .ok q) : command.columnAt? s = some q := by
  rw [columnAt?, htable, Option.bind_some, hname, Option.bind_some, h]
  rfl

lemma isAt_of_tableAt? {t : Table} (h : command.tableAt? s = some (i, t)) : command.IsAt s i :=
  ⟨(i, t), h, rfl⟩

lemma isAtColumn_of_columnAt? {t : Table} {c : Column} (htable : command.tableAt? s = some (i, t))
    (hcolumn : command.columnAt? s = some (j, c)) : command.IsAtColumn s i j :=
  ⟨isAt_of_tableAt? htable, (j, c), hcolumn, rfl⟩

lemma getElem?_of_tableAt? {p : ℕ × Table} (h : command.tableAt? s = some p) :
    s.tables[p.1]? = some p.2 := by
  obtain ⟨id, -, hid⟩ := Option.bind_eq_some_iff.mp h
  cases hlocate : s.locate id with
  | error e => simp [hlocate, Except.toOption] at hid
  | ok q =>
    rw [hlocate] at hid
    obtain rfl := Option.some.inj hid
    exact (Schema.locate_spec hlocate).1

lemma getElem?_of_columnAt? {p : ℕ × Table} {q : ℕ × Column} (htable : command.tableAt? s = some p)
    (h : command.columnAt? s = some q) : p.2.columns[q.1]? = some q.2 := by
  rw [columnAt?, htable, Option.bind_some] at h
  obtain ⟨name, -, hname⟩ := Option.bind_eq_some_iff.mp h
  cases hlocate : p.2.locate name with
  | error e => simp [hlocate, Except.toOption] at hname
  | ok q' =>
    rw [hlocate] at hname
    obtain rfl := Option.some.inj hname
    exact (Table.locate_spec hlocate).1

/-- The table that a command addresses has one place. -/
lemma eq_of_isAt {t : Table} (htable : command.tableAt? s = some (i, t)) (hat : command.IsAt s j) :
    j = i := by
  obtain ⟨p, hp, rfl⟩ := hat
  exact congrArg Prod.fst (Option.some.inj (hp.symm.trans htable))

/-- The column that a command addresses has one place. -/
lemma eq_of_isAtColumn {k l : ℕ} {t : Table} {c : Column}
    (htable : command.tableAt? s = some (i, t)) (hcolumn : command.columnAt? s = some (j, c))
    (hat : command.IsAtColumn s k l) : k = i ∧ l = j := by
  obtain ⟨hatTable, q, hq, rfl⟩ := hat
  exact ⟨eq_of_isAt htable hatTable, congrArg Prod.fst (Option.some.inj (hq.symm.trans hcolumn))⟩

/-! ### Columns -/

namespace KeepsColumn

variable {c d : Column}

lemma refl : command.KeepsColumn s i j c c :=
  ⟨rfl, .inr rfl, .inr (.inl rfl), .inr (.inl rfl)⟩

/-- A reference may be rewritten wherever it stands if the command touches it. -/
lemma mapReference (h : command.KeepsColumn s i j c d) {f : Reference → Option Reference}
    (hf : ∀ r, command.Touches s r ∨ f r = some r) :
    command.KeepsColumn s i j c (d.modify (ColumnDef.mapReference f)) := by
  refine ⟨h.id, ?_, h.primaryKey, ?_⟩
  · refine h.content.imp_right fun hcontent => ?_
    simp only [Column.modify_toColumnDef, ColumnDef.mapReference]
    rw [hcontent]
  · rcases h.reference with hat | hsame | htouched
    · exact .inl hat
    · cases hr : c.reference with
      | none =>
        refine .inr (.inl ?_)
        simp only [Column.modify_toColumnDef, ColumnDef.mapReference, hsame, hr, Option.bind_none]
      | some r =>
        rcases hf r with htouches | hkept
        · exact .inr (.inr ⟨r, rfl, htouches⟩)
        · refine .inr (.inl ?_)
          simp only [Column.modify_toColumnDef, ColumnDef.mapReference, hsame, hr,
            Option.bind_some, hkept]
    · exact .inr (.inr htouched)

/-- A column may cease to be a primary key if the command makes one in its table. -/
lemma withoutKey (hat : command.IsAt s i) (hkey : command.MakesKey s) :
    command.KeepsColumn s i j c (c.modify fun d => { d with primaryKey := false }) := by
  refine ⟨rfl, .inr rfl, ?_, .inr (.inl rfl)⟩
  cases hc : c.primaryKey with
  | false => exact .inr (.inl rfl)
  | true => exact .inr (.inr ⟨hkey, hat, rfl, rfl⟩)

/-- Of a column that the command edits only the identity is kept. -/
lemma edited (hat : command.IsAtColumn s i j) (hedits : command.EditsColumn)
    (hreference : command.SetsReference ∨ d.reference = c.reference) (hid : d.id = c.id) :
    command.KeepsColumn s i j c d :=
  ⟨hid, .inl ⟨hedits, hat⟩, .inl ⟨hedits, hat⟩,
    hreference.imp (fun h => ⟨h, hat⟩) Or.inl⟩

/-- The command may set the reference of the column that it addresses. -/
lemma withReference (hat : command.IsAtColumn s i j) (hsets : command.SetsReference)
    (r : Option Reference) : command.KeepsColumn s i j c { c with reference := r } :=
  ⟨rfl, .inr rfl, .inr (.inl rfl), .inl ⟨hsets, hat⟩⟩

end KeepsColumn

/-! ### Tables -/

namespace KeepsTable

variable {t u : Table}

/-- Columns that stay in their places, each within its frame. -/
lemma of_columns (hadds : command.addedColumns s i = []) {columns : List Column}
    (hids : columns.map (fun c => c.id) = t.columns.map fun c => c.id)
    (h : ∀ j c c', t.columns[j]? = some c → columns[j]? = some c' →
      command.KeepsColumn s i j c c') :
    command.KeepsTable s i t { t with columns := columns } :=
  ⟨rfl, .inr rfl, .inr rfl, .inr rfl, by rw [hadds, List.append_nil]; exact hids, h⟩

/-- A column keeps its place. -/
lemma exists_column {t' : Table} (h : command.KeepsTable s i t t') {c : Column}
    (hc : t.columns[j]? = some c) : ∃ c', t'.columns[j]? = some c' := by
  have hlen := congrArg List.length h.columnIds
  rw [List.length_append, List.length_map, List.length_map] at hlen
  have hlt : j < t'.columns.length := by
    have := (List.getElem?_eq_some_iff.mp hc).1
    omega
  exact ⟨_, List.getElem?_eq_getElem hlt⟩

lemma columns_refl : ∀ j c c', t.columns[j]? = some c → t.columns[j]? = some c' →
    command.KeepsColumn s i j c c' := by
  intro j c c' hc hc'
  rw [Option.some.inj (hc.symm.trans hc')]
  exact .refl

lemma refl (hadds : command.addedColumns s i = []) : command.KeepsTable s i t t :=
  .of_columns hadds rfl columns_refl

lemma mapReferences (h : command.KeepsTable s i t u) {f : ColumnDef → Reference → Option Reference}
    (hf : ∀ d r, command.Touches s r ∨ f d r = some r) :
    command.KeepsTable s i t
      { u with columns := u.columns.map fun c => c.modify fun d => d.mapReference (f d) } := by
  refine ⟨h.id, h.name, h.comment, h.position, ?_, ?_⟩
  · rw [← h.columnIds]
    exact List.map_map.trans rfl
  · intro j c c' hc hc'
    rw [List.getElem?_map, Option.map_eq_some_iff] at hc'
    obtain ⟨d, hd, rfl⟩ := hc'
    exact (h.columns j c d hc hd).mapReference (hf d.toColumnDef)

/-- A column follows at the end, and a primary key there is the only one. -/
lemma append (hat : command.IsAt s i) {added : Column}
    (hadds : command.addedColumns s i = [added.id])
    (hkey : added.primaryKey = true → command.MakesKey s) :
    command.KeepsTable s i t (t.append added) := by
  refine ⟨rfl, .inr rfl, .inr rfl, .inr rfl, ?_, ?_⟩
  · rw [hadds]
    exact Column.IsKeyBlind.map_append (fun _ _ _ _ => rfl) added
  · intro j c c' hc hc'
    have hlt := (List.getElem?_eq_some_iff.mp hc).1
    cases hprimary : added.primaryKey with
    | true =>
      simp only [Table.append, hprimary, if_true] at hc'
      rw [List.getElem?_append_left (by simpa [withoutKeys] using hlt), withoutKeys,
        List.getElem?_map, hc] at hc'
      obtain rfl := Option.some.inj hc'
      exact .withoutKey hat (hkey hprimary)
    | false =>
      simp only [Table.append, hprimary, Bool.false_eq_true, if_false] at hc'
      rw [List.getElem?_append_left hlt] at hc'
      exact columns_refl j c c' hc hc'

/-- A column takes the place of the one addressed, and a new primary key there is the only one. -/
lemma put (hat : command.IsAtColumn s i j) (hadds : command.addedColumns s i = [])
    {current placed : Column} {isNewKey : Bool} (hj : t.columns[j]? = some current)
    (hedits : command.EditsColumn) (hsets : command.SetsReference) (hid : placed.id = current.id)
    (hkey : isNewKey = true → command.MakesKey s) :
    command.KeepsTable s i t (t.put j isNewKey placed) := by
  have hids : (t.put j isNewKey placed).columns.map (fun c => c.id)
      = t.columns.map fun c => c.id := by
    rw [Column.IsKeyBlind.map_put (g := fun c => c.id) (fun _ _ _ _ => rfl), hid]
    obtain ⟨hlt, rfl⟩ := List.getElem?_eq_some_iff.mp hj
    rw [← List.getElem_map (fun c : Column => c.id) (h := by simpa using hlt),
      List.set_getElem_self]
  refine .of_columns hadds hids fun k c c' hc hc' => ?_
  by_cases hk : j = k
  · subst hk
    refine .edited hat hedits (.inl hsets) (Option.some.inj ?_)
    have hidj := congrArg (fun ids => ids[j]?) hids
    simp only [List.getElem?_map, hc] at hidj
    rw [← Option.map_some, ← hc']
    exact hidj
  · cases isNewKey with
    | true =>
      simp only [if_true] at hc'
      rw [List.getElem?_set_ne hk, withoutKeys, List.getElem?_map, hc] at hc'
      obtain rfl := Option.some.inj hc'
      exact .withoutKey hat.1 (hkey rfl)
    | false =>
      simp only [Bool.false_eq_true, if_false] at hc'
      rw [List.getElem?_set_ne hk] at hc'
      exact columns_refl k c c' hc hc'

/-- The column addressed becomes the only primary key. -/
lemma soleKeyAt (hat : command.IsAtColumn s i j) (hadds : command.addedColumns s i = [])
    (hedits : command.EditsColumn)
    (hkey : command.MakesKey s) :
    command.KeepsTable s i t { t with columns := Table.soleKeyAt j t.columns } := by
  refine .of_columns hadds (Column.IsKeyBlind.map_soleKeyAt (fun _ _ _ _ => rfl) j t.columns)
    fun k c c' hc hc' => ?_
  rw [Table.soleKeyAt, List.getElem?_mapIdx, hc] at hc'
  obtain rfl := Option.some.inj hc'
  by_cases hk : k = j
  · subst hk
    exact .edited hat hedits (.inr (by simp [ColumnDef.asSoleKey, ColumnDef.asPrimaryKey])) rfl
  · rw [beq_false_of_ne hk]
    exact .withoutKey hat.1 hkey

lemma withReference (hat : command.IsAtColumn s i j) (hadds : command.addedColumns s i = [])
    (hsets : command.SetsReference) (r : Option Reference) : command.KeepsTable s i t
      { t with columns := t.columns.modify j fun c => { c with reference := r } } := by
  refine .of_columns hadds (map_modify_of_eq fun _ => rfl) fun k c c' hc hc' => ?_
  rw [List.getElem?_modify, hc] at hc'
  obtain rfl := Option.some.inj hc'
  by_cases hk : j = k
  · subst hk
    simpa using KeepsColumn.withReference hat hsets r
  · simpa [hk] using KeepsColumn.refl

end KeepsTable

/-! ### Schemas -/

namespace Frame

variable {tables : List Table}

/-- A table that remains keeps its place. -/
lemma exists_table (h : command.Frame fresh s tables) {t : Table}
    (ht : (command.remaining s)[i]? = some t) : ∃ t', tables[i]? = some t' := by
  have hlen := congrArg List.length h.ids
  rw [List.length_append, List.length_map, List.length_map] at hlen
  have hlt : i < tables.length := by
    have := (List.getElem?_eq_some_iff.mp ht).1
    omega
  exact ⟨_, List.getElem?_eq_getElem hlt⟩

lemma tables_refl (hadds : ∀ i, command.addedColumns s i = []) : ∀ i t t', tables[i]? = some t →
    tables[i]? = some t' → command.KeepsTable s i t t' := by
  intro i t t' ht ht'
  rw [Option.some.inj (ht.symm.trans ht')]
  exact .refl (hadds i)

/-- Nothing happens to what remains. -/
lemma remaining (htables : command.addedTables fresh = [])
    (hcolumns : ∀ i, command.addedColumns s i = []) :
    command.Frame fresh s (command.remaining s) :=
  ⟨by rw [htables, List.append_nil], tables_refl hcolumns⟩

/-- All references may be rewritten of which the command touches those that change. -/
lemma mapAllReferences (h : command.Frame fresh s tables)
    {f : String → ColumnDef → Reference → Option Reference}
    (hf : ∀ owner d r, command.Touches s r ∨ f owner d r = some r) :
    command.Frame fresh s (mapAllReferences f tables) := by
  refine ⟨?_, fun i t t' ht ht' => ?_⟩
  · rw [← h.ids]
    exact List.map_map.trans rfl
  · rw [SchemaDesigner.mapAllReferences, List.getElem?_map, Option.map_eq_some_iff] at ht'
    obtain ⟨u, hu, rfl⟩ := ht'
    exact (h.tables i t u ht hu).mapReferences (hf u.name)

/-- The table addressed may change within its frame. -/
lemma modify {table : Table} {f : Table → Table} (hi : s.tables[i]? = some table)
    (hremaining : command.remaining s = s.tables) (htables : command.addedTables fresh = [])
    (hcolumns : ∀ k, i ≠ k → command.addedColumns s k = []) (hid : ∀ t, (f t).id = t.id)
    (h : command.KeepsTable s i table (f table)) : command.Frame fresh s (s.tables.modify i f) := by
  refine ⟨?_, fun k t t' ht ht' => ?_⟩
  · rw [hremaining, htables, List.append_nil]
    exact map_modify_of_eq hid
  · rw [hremaining] at ht
    rw [List.getElem?_modify, ht] at ht'
    obtain rfl := Option.some.inj ht'
    by_cases hk : i = k
    · subst hk
      obtain rfl := Option.some.inj (hi.symm.trans ht)
      simpa using h
    · simpa [hk] using KeepsTable.refl (hcolumns k hk)

end Frame

end Command

/-! ### Each kind of change -/

namespace Schema

variable {s s' : Schema} {fresh id : TableId}

open Command

lemma frame_withReference {command : Command} {i j : ℕ} {table : Table} {column : Column}
    (htable : command.tableAt? s = some (i, table))
    (hcolumn : command.columnAt? s = some (j, column)) (hi : s.tables[i]? = some table)
    (hremaining : command.remaining s = s.tables) (htables : command.addedTables fresh = [])
    (hcolumns : ∀ i, command.addedColumns s i = []) (hsets : command.SetsReference)
    (r : Option Reference) : command.Frame fresh s (s.withReference i j r).tables :=
  Frame.modify hi hremaining htables (fun k _ => hcolumns k) (fun _ => rfl)
    (.withReference (isAtColumn_of_columnAt? htable hcolumn) (hcolumns i) hsets r)

lemma frame_renameTable {name : String} (h : s.renameTable id name = .ok s') :
    (Command.renameTable id name).Frame fresh s s'.tables := by
  obtain ⟨-, -, i, table, hi, renamed, rfl, hs'⟩ := renameTable_effect h
  have htable : (Command.renameTable id name).tableAt? s = some (i, table) :=
    tableAt?_eq_some rfl hi
  have hat := isAt_of_tableAt? htable
  have hrenamed : (Command.renameTable id name).Frame fresh s
      (s.tables.modify i fun t => { t with name := Text.trim name }) :=
    Frame.modify (locate_spec hi).1 rfl rfl (fun _ _ => rfl) (fun _ => rfl)
      ⟨rfl, .inl ⟨trivial, hat⟩, .inr rfl, .inr rfl, (List.append_nil _).symm,
        KeepsTable.columns_refl⟩
  rw [hs']
  refine hrenamed.mapAllReferences (f := fun owner d =>
    renamedReference _ table.name (Text.trim name) owner d) fun owner d r => ?_
  rw [renamedReference]
  split_ifs with hold hnew
  · exact .inl ⟨_, htable, .inl hold⟩
  · exact .inl ⟨_, htable, .inr hnew⟩
  · exact .inr rfl

lemma frame_deleteTable (h : s.deleteTable id = .ok s') :
    (Command.deleteTable id).Frame fresh s s'.tables := by
  obtain ⟨i, table, hi, hs'⟩ := deleteTable_effect h
  have htable : (Command.deleteTable id).tableAt? s = some (i, table) := tableAt?_eq_some rfl hi
  have hremaining : (Command.deleteTable id).remaining s = s.tables.eraseIdx i := by
    rw [remaining, htable, Option.elim_some]
  rw [hs', ← hremaining]
  refine (Frame.remaining rfl fun _ => rfl).mapAllReferences (f := fun _ _ r =>
    if namesMatch r.table table.name then none else some r) fun owner d r => ?_
  split_ifs with hname
  · exact .inl ⟨_, htable, hname⟩
  · exact .inr rfl

lemma frame_addColumn {column : Column} (h : s.addColumn id column = .ok s') :
    (Command.addColumn id column).Frame fresh s s'.tables := by
  obtain ⟨i, table, hi, -, added, rfl, -, -, hs'⟩ := addColumn_effect h
  have htable : (Command.addColumn id column).tableAt? s = some (i, table) :=
    tableAt?_eq_some rfl hi
  have hat := isAt_of_tableAt? htable
  rw [hs']
  refine Frame.modify (locate_spec hi).1 rfl rfl (fun k hk => if_neg ?_) (fun _ => rfl)
    (.append hat (if_pos hat) fun hkey => hkey)
  rintro ⟨p, hp, rfl⟩
  exact hk (congrArg Prod.fst (Option.some.inj (htable.symm.trans hp)))

lemma frame_updateColumn {name : String} {replacement : Column}
    (h : s.updateColumn id name replacement = .ok s') :
    (Command.updateColumn id name replacement).Frame fresh s s'.tables := by
  obtain ⟨i, table, hi, j, current, hj, -, placed, rfl, -, -, hs'⟩ := updateColumn_effect h
  have htable : (Command.updateColumn id name replacement).tableAt? s = some (i, table) :=
    tableAt?_eq_some rfl hi
  have hcolumn : (Command.updateColumn id name replacement).columnAt? s = some (j, current) :=
    columnAt?_eq_some htable rfl hj
  have hput : (Command.updateColumn id name replacement).Frame fresh s (s.tables.modify i
      (Table.put j (replacement.primaryKey && !current.primaryKey)
        { replacement with name := Text.trim replacement.name, id := current.id })) := by
    refine Frame.modify (locate_spec hi).1 rfl rfl (fun _ _ => rfl) (fun _ => rfl)
      (.put (isAtColumn_of_columnAt? htable hcolumn) rfl (Table.locate_spec hj).1 trivial trivial
        rfl fun hkey => ?_)
    rw [Bool.and_eq_true, Bool.not_eq_true'] at hkey
    exact ⟨hkey.1, _, hcolumn, hkey.2⟩
  rw [hs']
  refine hput.mapAllReferences (f := fun _ _ r => some
    (if !namesMatch current.name (Text.trim replacement.name)
      && r.names table.name current.name then
      { r with column := Text.trim replacement.name } else r)) fun owner d r => ?_
  split_ifs with hfollow
  · rw [Bool.and_eq_true, Bool.not_eq_true'] at hfollow
    exact .inl ⟨_, htable, _, hcolumn, hfollow⟩
  · exact .inr rfl

lemma frame_removeColumn {name : String} (h : s.removeColumn id name = .ok s') :
    (Command.removeColumn id name).Frame fresh s s'.tables := by
  obtain ⟨i, table, hi, j, removed, hj, hs'⟩ := removeColumn_effect h
  have htable : (Command.removeColumn id name).tableAt? s = some (i, table) :=
    tableAt?_eq_some rfl hi
  have hcolumn : (Command.removeColumn id name).columnAt? s = some (j, removed) :=
    columnAt?_eq_some htable rfl hj
  have hremaining : (Command.removeColumn id name).remaining s
      = s.tables.modify i fun t => { t with columns := t.columns.eraseIdx j } := by
    rw [remaining, htable, Option.elim_some, hcolumn, Option.elim_some]
  rw [hs', ← hremaining]
  refine (Frame.remaining rfl fun _ => rfl).mapAllReferences (f := fun _ _ r =>
    if r.names table.name removed.name then none else some r) fun owner d r => ?_
  split_ifs with hnames
  · exact .inl ⟨_, htable, _, hcolumn, hnames⟩
  · exact .inr rfl

/-- Each accepted command, on any schema, keeps the order and the content of the tables and columns
that it does not address, but for primary keys that give way to a new one and for references that
the command touches, and puts what it adds at the end. -/
theorem frame_apply {command : Command} (h : s.apply fresh command = .ok s') :
    command.Frame fresh s s'.tables := by
  cases command with
  | addTable name =>
    obtain ⟨-, -, hs'⟩ := addTable_effect h
    refine ⟨by rw [hs', List.map_append]; rfl, fun i t t' ht ht' => ?_⟩
    have hlt : i < s.tables.length := (List.getElem?_eq_some_iff.mp ht).1
    rw [hs', List.getElem?_append_left hlt] at ht'
    exact Frame.tables_refl (fun _ => rfl) i t t' ht ht'
  | renameTable id name => exact frame_renameTable h
  | deleteTable id => exact frame_deleteTable h
  | moveTable id position =>
    obtain ⟨i, table, hi, hs'⟩ := moveTable_effect h
    rw [hs']
    exact Frame.modify (locate_spec hi).1 rfl rfl (fun _ _ => rfl) (fun _ => rfl)
      ⟨rfl, .inr rfl, .inr rfl, .inl ⟨trivial, isAt_of_tableAt? (tableAt?_eq_some rfl hi)⟩,
        (List.append_nil _).symm, KeepsTable.columns_refl⟩
  | setComment id comment =>
    obtain ⟨i, table, hi, hs'⟩ := setComment_effect h
    rw [hs']
    exact Frame.modify (locate_spec hi).1 rfl rfl (fun _ _ => rfl) (fun _ => rfl)
      ⟨rfl, .inr rfl, .inl ⟨trivial, isAt_of_tableAt? (tableAt?_eq_some rfl hi)⟩, .inr rfl,
        (List.append_nil _).symm, KeepsTable.columns_refl⟩
  | addColumn id column => exact frame_addColumn h
  | updateColumn id name replacement => exact frame_updateColumn h
  | removeColumn id name => exact frame_removeColumn h
  | setPrimaryKey id name =>
    obtain ⟨i, table, hi, j, chosen, hj, hs'⟩ := setPrimaryKey_effect h
    have htable : (Command.setPrimaryKey id name).tableAt? s = some (i, table) :=
      tableAt?_eq_some rfl hi
    have hat := isAtColumn_of_columnAt? htable (columnAt?_eq_some htable rfl hj)
    rw [hs']
    exact Frame.modify (locate_spec hi).1 rfl rfl (fun _ _ => rfl) (fun _ => rfl)
      (.soleKeyAt hat rfl trivial trivial)
  | setForeignKey id name targetId targetName =>
    obtain ⟨i, table, hi, j, column, hj, _, _, _, _, _, _, rfl⟩ := setForeignKey_effect h
    have htable : (Command.setForeignKey id name targetId targetName).tableAt? s
        = some (i, table) := tableAt?_eq_some rfl hi
    exact frame_withReference htable (columnAt?_eq_some htable rfl hj) (locate_spec hi).1 rfl rfl
      (fun _ => rfl) trivial _
  | connect id name targetId targetName =>
    obtain ⟨i, table, hi, j, column, hj, _, _, _, _, _, _, rfl⟩ := setForeignKey_effect h
    have htable : (Command.connect id name targetId targetName).tableAt? s = some (i, table) :=
      tableAt?_eq_some rfl hi
    exact frame_withReference htable (columnAt?_eq_some htable rfl hj) (locate_spec hi).1 rfl rfl
      (fun _ => rfl) trivial _
  | clearForeignKey id name =>
    obtain ⟨i, table, hi, j, column, hj, rfl⟩ := clearForeignKey_effect h
    have htable : (Command.clearForeignKey id name).tableAt? s = some (i, table) :=
      tableAt?_eq_some rfl hi
    exact frame_withReference htable (columnAt?_eq_some htable rfl hj) (locate_spec hi).1 rfl rfl
      (fun _ => rfl) trivial _

/-- Two tables of one name, one of them with two primary keys, and references to one of these, to a
column that both tables have, and to nothing. -/
def crowdedSchema : Schema where
  tables := [
    { id := ⟨"1"⟩, name := "users", columns := [
      { name := "id", type := .int, primaryKey := true, id := ⟨"a"⟩ },
      { name := "code", type := .int, primaryKey := true, id := ⟨"b"⟩ }] },
    { id := ⟨"2"⟩, name := "Users", columns := [
      { name := "boss", type := .int, reference := some ⟨"USERS", "ID"⟩, id := ⟨"c"⟩ },
      { name := "code", type := .int, reference := some ⟨"users", "code"⟩, id := ⟨"d"⟩ },
      { name := "old", type := .int, reference := some ⟨"staff", "id"⟩, id := ⟨"e"⟩ }] }]

/-- A removed column takes one reference along. The others stay, to whatever they lead, and nothing
else changes. -/
theorem frame_crowdedSchema : ∃ s',
    crowdedSchema.apply ⟨"3"⟩ (.removeColumn ⟨"1"⟩ "Id") = .ok s'
      ∧ s'.referringColumns.map (fun p => p.2.1.name) = ["code", "old"]
      ∧ (Command.removeColumn ⟨"1"⟩ "Id").Frame ⟨"3"⟩ crowdedSchema s'.tables :=
  ⟨_, rfl, by decide, frame_apply rfl⟩

end Schema

end SchemaDesigner
