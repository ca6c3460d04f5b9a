/-
What a renaming does to the foreign keys: each one that leads to a column goes on to lead there,
under the new name, also where names differ by case or a dangling reference has the new one.

* `Schema.Follows`: a foreign key is there in the other schema too, with both ends carried along;
* `Command.Carries`, `Command.Carries.follows`: if a command carries the names of all columns, the
  foreign keys follow;
* `Schema.carries_renameTable`, `Schema.carries_updateColumn`: both kinds of renaming do so;
* `Schema.follows_apply`: the foreign keys follow each accepted renaming.
-/
import SchemaDesigner.Proofs.Schema.ForeignKeys
import SchemaDesigner.Proofs.Schema.Revival

namespace SchemaDesigner

/-! ### Edges through a change -/

/-- The edge with another column at either end. -/
def Relationship.mapEnds (f : Reference → Reference) (e : Relationship) : Relationship where
  sourceTable := (f e.source).table
  sourceColumn := (f e.source).column
  targetTable := (f e.target).table
  targetColumn := (f e.target).column
  optional := e.optional

/-- The foreign key `e` at a place is there in the other schema too, with both ends carried along by
`f`. It leads where it has led, and so does its edge. -/
structure Schema.Follows (f : Reference → Reference) (s s' : Schema) (k l : ℕ) (e : Relationship) :
    Prop where
  foreignKey : s'.foreignKeyAt? k l = some (e.mapEnds f)
  destination : (f e.target).destination? s'.tables = e.target.destination? s.tables
  relationship : ∃ edge ∈ s.relationships, e.declared? s.tables = some edge
    ∧ edge.mapEnds f ∈ s'.relationships ∧ (e.mapEnds f).declared? s'.tables = some (edge.mapEnds f)

/-! ### Carrying names -/

namespace Command

/-- What a change of names does to the column `c` of the table `t`, at the place `l` of the one at
the place `k`: what named it names it still, and if it is not the column that the command addresses,
its name and its references are carried along. -/
structure CarriesColumn (s : Schema) (command : Command) (k l : ℕ) (t t' : Table) (c c' : Column) :
    Prop where
  id : t'.id = t.id
  names : ∀ r : Reference, r.names t.name c.name = true →
    (command.carried s r).names t'.name c'.name = true
      ∧ command.carried s ⟨t.name, r.column⟩ = ⟨t'.name, (command.carried s r).column⟩
  nullable : ¬command.IsAtColumn s k l → c'.nullable = c.nullable
  name : ¬command.IsAtColumn s k l → command.carried s ⟨t.name, c.name⟩ = ⟨t'.name, c'.name⟩
  reference : ¬command.IsAtColumn s k l → ∀ r, c.reference = some r → r.Resolves s.tables →
    c'.reference = some (command.carried s r)

/-- The columns stay in their places, and the command carries each of them. -/
structure Carries (s s' : Schema) (command : Command) : Prop where
  distinct : s'.HasDistinctNames
  columns : ∀ k l t c, s.tables[k]? = some t → t.columns[l]? = some c → ∃ t' c',
    s'.tables[k]? = some t' ∧ t'.columns[l]? = some c' ∧ command.CarriesColumn s k l t t' c c'

variable {s s' : Schema} {command : Command} {k l : ℕ} {e : Relationship}

/-- A foreign key follows the names that a command carries. -/
lemma Carries.follows (h : command.Carries s s') (hs : s.HasDistinctNames)
    (hkey : s.foreignKeyAt? k l = some e) (hat : ¬command.IsAtColumn s k l) {place : TableId × ℕ}
    (hplace : e.target.destination? s.tables = some place) :
    s.Follows (command.carried s) s' k l e := by
  obtain ⟨t, c, r, ht, hc, hr, rfl⟩ := Schema.foreignKeyAt?_eq_some.mp hkey
  obtain ⟨t', c', ht', hc', hcarries⟩ := h.columns k l t c ht hc
  obtain ⟨u, hu, huid, d, hd, hnames⟩ := hs.destination?_eq_some_iff.mp hplace
  obtain ⟨m, hm⟩ := List.mem_iff_getElem?.mp hu
  obtain ⟨u', d', hu', hd', htarget⟩ := h.columns m place.2 u d hm hd
  obtain ⟨hnames', hspelled⟩ := htarget.names r hnames
  have hr' := hcarries.reference hat r hr (.of_names hu (List.mem_of_getElem? hd) hnames)
  have hname := hcarries.name hat
  have hkey' : s'.foreignKeyAt? k l
      = some ((Relationship.spelled t c r).mapEnds (command.carried s)) := by
    refine Schema.foreignKeyAt?_eq_some.mpr ⟨t', c', _, ht', hc', hr', ?_⟩
    simp [Relationship.spelled, Relationship.mapEnds, Relationship.source, Relationship.target,
      hname, hcarries.nullable hat]
  have htable : tableNamed? s.tables r.table = some u :=
    (tableNamed?_eq_some_iff hs.tables).mpr ⟨hu, (Reference.names_iff.mp hnames).1⟩
  have htable' : tableNamed? s'.tables (command.carried s r).table = some u' :=
    (tableNamed?_eq_some_iff h.distinct.tables).mpr
      ⟨List.mem_of_getElem? hu', (Reference.names_iff.mp hnames').1⟩
  have hedge : (Relationship.spelled t c r).declared? s.tables
      = some { Relationship.spelled t c r with targetTable := u.name } := by
    rw [Relationship.declared?]
    exact congrArg _ htable
  have hedge' : ((Relationship.spelled t c r).mapEnds (command.carried s)).declared? s'.tables
      = some (Relationship.mapEnds (command.carried s)
        { Relationship.spelled t c r with targetTable := u.name }) := by
    rw [Relationship.declared?]
    refine (congrArg _ htable').trans ?_
    simp [Relationship.spelled, Relationship.mapEnds, Relationship.source, Relationship.target,
      hspelled]
  refine ⟨hkey', ?_, _, ?_, hedge, ?_, hedge'⟩
  · rw [hplace]
    exact h.distinct.destination?_eq_some_iff.mpr
      ⟨u', List.mem_of_getElem? hu', htarget.id.trans huid, d', hd', hnames'⟩
  · rw [Schema.relationships_eq]
    exact List.mem_filterMap.mpr ⟨_, Schema.mem_foreignKeys_iff.mpr ⟨k, l, hkey⟩, hedge⟩
  · rw [Schema.relationships_eq]
    exact List.mem_filterMap.mpr ⟨_, Schema.mem_foreignKeys_iff.mpr ⟨k, l, hkey'⟩, hedge'⟩

end Command

/-! ### A table of another name -/

namespace Schema

variable {s s' : Schema} {id : TableId} {name : String}

/-- Renaming a table gives its new name to whatever matches its old one. -/
lemma carried_renameTable {i : ℕ} {table : Table} (hi : s.locate id = .ok (i, table))
    (r : Reference) : (Command.renameTable id name).carried s r
      = { r with table := renamedName table.name (Text.trim name) r.table } := by
  have htable : (Command.renameTable id name).tableAt? s = some (i, table) :=
    Command.tableAt?_eq_some rfl hi
  rw [Command.carried, htable, Option.elim_some, renamedName]
  split_ifs <;> rfl

lemma namesMatch_renamedName {old new a b : String} (h : namesMatch a b = true) :
    namesMatch (renamedName old new a) (renamedName old new b) = true := by
  rw [renamedName, renamedName, namesMatch_congr h]
  split_ifs
  · exact namesMatch_refl new
  · exact h

/-- Only the table at the place has a name that matches the old one. -/
lemma HasDistinctNames.modify_name_eq_map (hs : s.HasDistinctNames) {i : ℕ} {table : Table}
    (hi : s.tables[i]? = some table) {new : String} :
    s.tables.modify i (fun t => { t with name := new })
      = s.tables.map fun t => { t with name := renamedName table.name new t.name } := by
  rw [← List.map_id (s.tables.modify i _)]
  refine map_modify_eq_map (fun t ht => ?_) fun k t hne ht => ?_
  · obtain rfl := Option.some.inj (hi.symm.trans ht)
    exact congrArg (fun n => { table with name := n }) (if_pos (namesMatch_refl _)).symm
  · exact congrArg (fun n => { t with name := n })
      (if_neg fun hmatch => hne (hs.table_place ht hi hmatch)).symm

/-- A table may get a name that no other one has. -/
lemma HasDistinctNames.mapNames (hs : s.HasDistinctNames) {old new : String}
    (hown : ∀ t ∈ s.tables, namesMatch t.name new = true → namesMatch t.name old = true) :
    HasDistinctNames ⟨s.tables.map fun t => { t with name := renamedName old new t.name }⟩ := by
  refine ⟨?_, ?_, List.forall_mem_map.mpr hs.columns⟩
  · rw [List.map_map]
    exact hs.ids
  · rw [List.map_map]
    refine List.map_map (g := renamedName old new) ▸ hs.tables.map ?_
    intro a ha b hb
    obtain ⟨t, ht, rfl⟩ := List.mem_map.mp ha
    obtain ⟨u, hu, rfl⟩ := List.mem_map.mp hb
    exact namesMatch_of_renamedName (hown t ht) (hown u hu)

lemma carries_renameTable (hs : s.HasDistinctNames) (h : s.renameTable id name = .ok s') :
    (Command.renameTable id name).Carries s s' := by
  obtain ⟨-, hfree, i, table, hi, renamed, hrenamed, hs'⟩ := renameTable_effect h
  obtain ⟨hget, hid⟩ := locate_spec hi
  have hmem := List.mem_of_getElem? hget
  have hown : ∀ t ∈ s.tables, namesMatch t.name (Text.trim name) = true →
      namesMatch t.name table.name = true := by
    intro t ht hmatch
    rw [List.inj_on_of_nodup_map hs.ids ht hmem ((hfree t ht hmatch).trans hid.symm)]
    exact namesMatch_refl _
  have hdistinct : HasDistinctNames ⟨renamed⟩ := by
    rw [hrenamed, hs.modify_name_eq_map hget]
    exact hs.mapNames hown
  refine ⟨.of_tables hs' (hdistinct.mapAllReferences _), fun k l t c ht hc => ?_⟩
  refine ⟨_, _, by rw [hs', hrenamed, hs.modify_name_eq_map hget, List.getElem?_map,
    List.getElem?_map, ht]; rfl, by rw [List.getElem?_map, hc]; rfl, ?_⟩
  refine ⟨rfl, fun r hr => ?_, fun _ => rfl, fun _ => carried_renameTable hi _,
    fun _ r hr hresolves => ?_⟩
  · rw [carried_renameTable hi, carried_renameTable hi]
    obtain ⟨hrtable, hrcolumn⟩ := Bool.and_eq_true_iff.mp hr
    exact ⟨Bool.and_eq_true_iff.mpr ⟨namesMatch_renamedName hrtable, hrcolumn⟩, rfl⟩
  · obtain ⟨u, hu, huname, -⟩ := hresolves
    rw [Column.modify_toColumnDef, ColumnDef.mapReference, hr, Option.bind_some,
      carried_renameTable hi]
    refine renamedReference_eq fun hmatch => ?_
    exact namesMatch_trans (namesMatch_symm huname) (hown u hu (namesMatch_trans huname hmatch))

end Schema

/-! ### A column of another name -/

namespace Command

/-- A column that has kept its name is carried if references to it are not. -/
lemma CarriesColumn.of_kept {s : Schema} {command : Command} {k l : ℕ} {t t' : Table}
    {c c' : Column} (hid : t'.id = t.id) (htable : t'.name = t.name) (hname : c'.name = c.name)
    (hnullable : c'.nullable = c.nullable)
    (hreference : c'.reference = c.reference.map (command.carried s))
    (hother : ∀ r : Reference, r.names t.name c.name = true → command.carried s r = r) :
    command.CarriesColumn s k l t t' c c' where
  id := hid
  names r hr := by
    rw [hother r hr, hother _ (Reference.names_of_names hr), htable, hname]
    exact ⟨hr, rfl⟩
  nullable _ := hnullable
  name _ := by
    rw [hother _ (Reference.names_self ⟨t.name, c.name⟩), htable, hname]
  reference _ r hr _ := by rw [hreference, hr, Option.map_some]

end Command

namespace Schema

variable {s s' : Schema} {id : TableId} {name : String} {replacement : Column} {i j : ℕ}
  {table : Table} {current : Column}

/-- In the place of the replaced column its new name is carried; its reference may be any. -/
lemma carriesColumn_updateColumn_self (hi : s.locate id = .ok (i, table))
    (hj : table.locate name = .ok (j, current)) {t' : Table} {c' : Column}
    (hid : t'.id = table.id) (htable : t'.name = table.name)
    (hname : c'.name = Text.trim replacement.name) :
    (Command.updateColumn id name replacement).CarriesColumn s i j table t' current c' := by
  obtain ⟨htableAt, hcolumnAt⟩ := Command.columnAt?_updateColumn replacement hi hj
  have hat := Command.isAtColumn_of_columnAt? htableAt hcolumnAt
  refine ⟨hid, fun r hr => ?_, fun hnot => absurd hat hnot, fun hnot => absurd hat hnot,
    fun hnot => absurd hat hnot⟩
  rw [carried_updateColumn hi hj, carried_updateColumn hi hj, hr, Reference.names_of_names hr,
    htable, hname]
  cases hren : namesMatch current.name (Text.trim replacement.name) with
  | true =>
    refine ⟨?_, rfl⟩
    rw [Reference.names_congr hren] at hr
    exact hr
  | false =>
    refine ⟨?_, rfl⟩
    exact Bool.and_eq_true_iff.mpr ⟨(Bool.and_eq_true_iff.mp hr).1, namesMatch_refl _⟩

/-- References to other columns stay as they are. -/
lemma carried_updateColumn_of_other (hi : s.locate id = .ok (i, table))
    (hj : table.locate name = .ok (j, current)) {t : Table} {c : Column}
    (hne : ¬(namesMatch t.name table.name = true ∧ namesMatch c.name current.name = true))
    {r : Reference} (hr : r.names t.name c.name = true) :
    (Command.updateColumn id name replacement).carried s r = r := by
  rw [carried_updateColumn hi hj, if_neg]
  rw [Bool.and_eq_true]
  rintro ⟨-, hnames⟩
  obtain ⟨htable, hcolumn⟩ := Reference.names_iff.mp hr
  obtain ⟨htable', hcolumn'⟩ := Bool.and_eq_true_iff.mp hnames
  exact hne ⟨namesMatch_trans htable htable', namesMatch_trans hcolumn hcolumn'⟩

lemma carries_updateColumn (hs : s.HasDistinctNames)
    (h : s.updateColumn id name replacement = .ok s') :
    (Command.updateColumn id name replacement).Carries s s' := by
  obtain ⟨i, table, hi, j, current, hj, placed, hplaced, hfree, -, hs'⟩ :=
    updateColumn_effect_carried h
  have hget := (locate_spec hi).1
  have hcurrent := (Table.locate_spec hj).1
  set carry : Reference → Option Reference := fun r =>
    some ((Command.updateColumn id name replacement).carried s r)
  set put := Table.put j (placed.primaryKey && !current.primaryKey) placed
  refine ⟨.of_tables hs' (.mapAllReferences (hs.put hget hcurrent hfree _) _),
    fun k l t c ht hc => ?_⟩
  -- references to columns in other places than the replaced one are not touched
  have hother : ¬(k = i ∧ l = j) → ∀ r : Reference, r.names t.name c.name = true →
      (Command.updateColumn id name replacement).carried s r = r := by
    refine fun hplace r => carried_updateColumn_of_other hi hj fun hnames => hplace ?_
    obtain rfl := hs.table_place ht hget hnames.1
    obtain rfl := Option.some.inj (hget.symm.trans ht)
    exact ⟨rfl, hs.column_place (List.mem_of_getElem? hget) hc hcurrent hnames.2⟩
  by_cases hk : k = i
  · subst hk
    obtain rfl := Option.some.inj (hget.symm.trans ht)
    by_cases hl : l = j
    · subst hl
      obtain rfl := Option.some.inj (hcurrent.symm.trans hc)
      obtain ⟨t', d, ht', hd, hid, htable, hname, -⟩ := exists_updatedColumn h hi hj
      exact ⟨t', d, ht', hd, carriesColumn_updateColumn_self hi hj hid htable hname⟩
    · obtain ⟨isKey, hd⟩ :=
        Table.exists_put_of_ne (placed.primaryKey && !current.primaryKey) placed hl hc
      have hk' : (s.tables.modify k put)[k]? = some (put table) := by
        rw [List.getElem?_modify_eq, hget]
        rfl
      obtain ⟨ht', hd'⟩ := getElem?_mapAllReferences carry hk' hd
      exact ⟨_, _, hs' ▸ ht', hd', .of_kept rfl rfl rfl rfl Option.map_eq_bind.symm
        (hother fun hplace => hl hplace.2)⟩
  · have hk' : (s.tables.modify i put)[k]? = some t := by
      rw [List.getElem?_modify_ne _ _ (Ne.symm hk), ht]
    obtain ⟨ht', hc'⟩ := getElem?_mapAllReferences carry hk' hc
    exact ⟨_, _, hs' ▸ ht', hc', .of_kept rfl rfl rfl rfl Option.map_eq_bind.symm
      (hother fun hplace => hk hplace.1)⟩

end Schema

/-! ### Both kinds of renaming -/

/-- The command may give a table or a column another name. -/
def Command.IsRenaming : Command → Prop
  | renameTable _ _ | updateColumn _ _ _ => True
  | _ => False

namespace Schema

variable {s s' : Schema} {fresh : TableId} {command : Command} {k l : ℕ} {e : Relationship}
  {place : TableId × ℕ}

/-- When a table is renamed or a column replaced, under whatever name, in a schema whose names are
distinct, each foreign key that leads to a column, but for the one of the replaced column, is there
afterwards and leads to the same place of the same table, and its relationship is the earlier one
with the new name in the place of the old one. -/
theorem follows_apply (hs : s.HasDistinctNames) (hrenaming : command.IsRenaming)
    (h : s.apply fresh command = .ok s') (hkey : s.foreignKeyAt? k l = some e)
    (hother : ¬command.IsAtColumn s k l)
    (hplace : e.target.destination? s.tables = some place) :
    s.Follows (command.carried s) s' k l e := by
  have hcarries : command.Carries s s' := by
    cases command with
    | renameTable id name => exact carries_renameTable hs h
    | updateColumn id name replacement => exact carries_updateColumn hs h
    | _ => exact hrenaming.elim
  exact hcarries.follows hs hkey hother hplace

/-- The key of the users of `linkedSchema` under another name, which a reference has waited for, and
with a reference of its own. -/
def renamedKey : Column :=
  { name := " Code ", type := .int, primaryKey := true, reference := some ⟨"orders", "id"⟩,
    id := ⟨"h"⟩ }

/-- The reference of a table to itself follows a new name of the table and a new name of its key,
which are trimmed, and its relationship has the new name at both ends or at the far one. -/
theorem follows_linkedSchema : linkedSchema.HasDistinctNames
    ∧ linkedSchema.foreignKeyAt? 1 1 = some ⟨"users", "boss", "users", "ID", true⟩
    ∧ Reference.destination? linkedSchema.tables ⟨"users", "ID"⟩ = some (⟨"2"⟩, 0)
    ∧ (∃ s', linkedSchema.apply ⟨"3"⟩ (.renameTable ⟨"2"⟩ " Teams ") = .ok s'
      ∧ s'.foreignKeyAt? 1 1 = some ⟨"Teams", "boss", "Teams", "ID", true⟩
      ∧ linkedSchema.Follows ((Command.renameTable ⟨"2"⟩ " Teams ").carried linkedSchema) s' 1 1
        ⟨"users", "boss", "users", "ID", true⟩)
    ∧ ∃ s', linkedSchema.apply ⟨"3"⟩ (.updateColumn ⟨"2"⟩ "Id" renamedKey) = .ok s'
      ∧ s'.foreignKeyAt? 1 1 = some ⟨"users", "boss", "users", "Code", true⟩
      ∧ linkedSchema.Follows ((Command.updateColumn ⟨"2"⟩ "Id" renamedKey).carried linkedSchema) s'
        1 1 ⟨"users", "boss", "users", "ID", true⟩ := by
  have hs := hasDistinctNames_linkedSchema
  have hkey : linkedSchema.foreignKeyAt? 1 1
      = some ⟨"users", "boss", "users", "ID", true⟩ := rfl
  have hplace : Reference.destination? linkedSchema.tables ⟨"users", "ID"⟩ = some (⟨"2"⟩, 0) := by
    decide
  have hrename : linkedSchema.apply ⟨"3"⟩ (.renameTable ⟨"2"⟩ " Teams ") = .ok _ := rfl
  have hupdate : linkedSchema.apply ⟨"3"⟩ (.updateColumn ⟨"2"⟩ "Id" renamedKey) = .ok _ := rfl
  refine ⟨hs, hkey, hplace, ⟨_, hrename, by decide,
    follows_apply hs trivial hrename hkey (by decide) hplace⟩,
    _, hupdate, by decide, follows_apply hs trivial hupdate hkey (by decide) hplace⟩

end Schema

end SchemaDesigner
