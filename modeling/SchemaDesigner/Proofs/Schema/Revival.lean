/-
Dangling references that a change brings to life. Renaming a table puts them through the gate, and
giving a column a new name does not.

* `Command.carried`: what a command makes of a reference to what it renames;
* `Command.RevivesSafely`: whatever dangled, is still there and resolves after a command would pass
  the gate;
* `Command.WakesUnfit`: a column gets a name for which another one has waited that may not refer to
  it, or the column itself;
* `checkReference_eq_ok_of_mem`: the gate for a reference that names a given column;
* `Schema.revivesSafely_iff`: an accepted command revives safely unless it wakes an unfit reference.
-/
import SchemaDesigner.Proofs.Schema.Compatible
import SchemaDesigner.Proofs.Schema.Distinct
import SchemaDesigner.Proofs.Schema.Frame

namespace SchemaDesigner

/-- The other column is a primary key of a type that fits. -/
def ColumnDef.MayReferTo (source target : ColumnDef) : Prop :=
  target.primaryKey = true ∧ source.incompatibility? target = none

instance (source target : ColumnDef) : Decidable (source.MayReferTo target) :=
  inferInstanceAs (Decidable (_ ∧ _))

instance (tables : List Table) (r : Reference) : Decidable (r.Resolves tables) :=
  inferInstanceAs (Decidable (∃ t ∈ tables, namesMatch t.name r.table = true
    ∧ ∃ c ∈ t.columns, namesMatch c.name r.column = true))

namespace Command

/-- What the command makes of a reference, which follows the table or the column that it renames. -/
def carried (s : Schema) (command : Command) (r : Reference) : Reference :=
  match command with
  | renameTable _ name => (command.tableAt? s).elim r fun p =>
    if namesMatch r.table p.2.name then { r with table := Text.trim name } else r
  | updateColumn _ _ replacement => (command.tableAt? s).elim r fun p =>
    (command.columnAt? s).elim r fun q =>
      if !namesMatch q.2.name (Text.trim replacement.name) && r.names p.2.name q.2.name then
        { r with column := Text.trim replacement.name } else r
  | _ => r

/-- After the command, each reference that dangled before and is still in its column either dangles
or would pass the gate. -/
def RevivesSafely (s s' : Schema) (command : Command) : Prop :=
  ∀ (k l : ℕ) (t t' : Table) (c c' : Column) (r : Reference),
    (command.remaining s)[k]? = some t → s'.tables[k]? = some t' →
    t.columns[l]? = some c → t'.columns[l]? = some c' →
    c.reference = some r → ¬r.Resolves s.tables →
    c'.reference = some (command.carried s r) → (command.carried s r).Resolves s'.tables →
    checkReference s'.tables t'.name c'.toColumnDef (command.carried s r) = .ok ()

/-- The column to which the command gives a name that is new to its table, with that table. -/
def newColumn? (s : Schema) (command : Command) : Option (Table × ColumnDef) :=
  match command with
  | addColumn _ column => (command.tableAt? s).map fun p =>
    (p.2, { column.toColumnDef with name := Text.trim column.name })
  | updateColumn _ _ replacement => (command.tableAt? s).bind fun p =>
    (command.columnAt? s).bind fun q =>
      if namesMatch q.2.name (Text.trim replacement.name) then none
      else some (p.2, { replacement.toColumnDef with name := Text.trim replacement.name })
  | _ => none

/-- The command addresses this column of this table. -/
def IsAbout (s : Schema) (t : Table) (c : Column) (command : Command) : Prop :=
  (command.tableAt? s).map Prod.snd = some t ∧ (command.columnAt? s).map Prod.snd = some c

instance (s : Schema) (t : Table) (c : Column) (command : Command) :
    Decidable (command.IsAbout s t c) :=
  inferInstanceAs (Decidable (_ ∧ _))

/-- The command gives a column a name for which some reference has waited. It is a reference of a
column that may not refer to it, or of the one renamed, which then refers to itself. -/
def WakesUnfit (s : Schema) (command : Command) : Prop :=
  ∃ p ∈ command.newColumn? s, ∃ t ∈ s.tables, ∃ c ∈ t.columns, ∃ r ∈ c.reference,
    r.names p.1.name p.2.name = true
      ∧ if command.IsAbout s t c then p.2.reference.map (command.carried s) = some r
        else ¬c.toColumnDef.MayReferTo p.2

instance (s : Schema) (command : Command) : Decidable (command.WakesUnfit s) :=
  inferInstanceAs (Decidable (∃ p ∈ command.newColumn? s, ∃ t ∈ s.tables, ∃ c ∈ t.columns,
    ∃ r ∈ c.reference, _ ∧ _))

end Command

/-! ### Resolution through a change -/

section Resolves

variable {tables : List Table} {i : ℕ} {t : Table} {f : Table → Table} {r : Reference}

lemma Reference.Resolves.of_names {c : Column} (ht : t ∈ tables) (hc : c ∈ t.columns)
    (h : r.names t.name c.name = true) : r.Resolves tables :=
  have hnames := Reference.names_iff.mp h
  ⟨t, ht, hnames.1, c, hc, hnames.2⟩

lemma Reference.resolves_mapAllReferences {g : String → ColumnDef → Reference → Option Reference} :
    r.Resolves (mapAllReferences g tables) ↔ r.Resolves tables := by
  refine ⟨fun h => ?_, fun h => h.mono fun u hu => ?_⟩
  · obtain ⟨v, hv, htable, c, hc, hcolumn⟩ := h
    obtain ⟨u, hu, rfl⟩ := List.mem_map.mp hv
    obtain ⟨d, hd, rfl⟩ := List.mem_map.mp hc
    exact ⟨u, hu, htable, d, hd, hcolumn⟩
  · exact ⟨_, List.mem_map_of_mem hu, rfl, fun c hc => ⟨_, List.mem_map_of_mem hc, rfl⟩⟩

/-- A reference that resolves after a change of one table did so before or leads to that table. -/
lemma Reference.Resolves.of_modify (hi : tables[i]? = some t) (hname : (f t).name = t.name)
    (h : r.Resolves (tables.modify i f)) : r.Resolves tables ∨ namesMatch t.name r.table = true
      ∧ ∃ c ∈ (f t).columns, namesMatch c.name r.column = true := by
  obtain ⟨u, hu, htable, hcolumn⟩ := h
  rcases eq_or_of_mem_modify hu hi with rfl | ⟨k, -, hk⟩
  · exact .inr ⟨hname ▸ htable, hcolumn⟩
  · exact .inl ⟨u, List.mem_of_getElem? hk, htable, hcolumn⟩

/-- A table with one new name at most brings no other reference to life than those to that name. -/
lemma Reference.Resolves.or_names_of_modify (hi : tables[i]? = some t)
    (hname : (f t).name = t.name) {new : String}
    (hcolumns : ∀ c ∈ (f t).columns, c.name ∈ t.columns.map (fun c => c.name) ∨ c.name = new)
    (h : r.Resolves (tables.modify i f)) : r.Resolves tables ∨ r.names t.name new = true := by
  rcases h.of_modify hi hname with h | ⟨htable, c, hc, hcolumn⟩
  · exact .inl h
  · rcases hcolumns c hc with hold | rfl
    · obtain ⟨d, hd, hdc⟩ := List.mem_map.mp hold
      exact .inl ⟨t, List.mem_of_getElem? hi, htable, d, hd, hdc ▸ hcolumn⟩
    · exact .inr (Reference.names_iff.mpr ⟨htable, hcolumn⟩)

/-- A table without new names brings no reference to life. -/
lemma Reference.Resolves.of_modify_of_subset (hi : tables[i]? = some t)
    (hname : (f t).name = t.name)
    (hcolumns : ∀ c ∈ (f t).columns, c.name ∈ t.columns.map fun c => c.name)
    (h : r.Resolves (tables.modify i f)) : r.Resolves tables := by
  rcases h.of_modify hi hname with h | ⟨htable, c, hc, hcolumn⟩
  · exact h
  · obtain ⟨d, hd, hdc⟩ := List.mem_map.mp (hcolumns c hc)
    exact ⟨t, List.mem_of_getElem? hi, htable, d, hd, hdc ▸ hcolumn⟩

end Resolves

/-! ### The gate -/

section Gate

variable {tables : List Table} {owner : String} {source : ColumnDef} {r : Reference}

/-- The gate for a reference to a column that its names tell apart. -/
lemma checkReference_eq_ok_of_mem {t : Table} {c : Column}
    (htables : DistinctNames (tables.map fun t => t.name)) (ht : t ∈ tables)
    (hcolumns : DistinctNames (t.columns.map fun c => c.name)) (hc : c ∈ t.columns)
    (hr : r.names t.name c.name = true) : checkReference tables owner source r = .ok ()
      ↔ (namesMatch t.name owner && namesMatch c.name source.name) = false
        ∧ source.MayReferTo c.toColumnDef := by
  obtain ⟨htname, hcname⟩ := Reference.names_iff.mp hr
  have htable := (tableNamed?_eq_some_iff htables).mpr ⟨ht, htname⟩
  have hsome : (t.column? r.column).isSome = true := Table.isSome_column?_iff.mpr ⟨c, hc, hcname⟩
  obtain ⟨d, hd⟩ := Option.isSome_iff_exists.mp hsome
  obtain ⟨hdmem, hdname⟩ := Table.column?_eq_some hd
  obtain rfl := hcolumns.eq_of_mem hc hdmem (namesMatch_trans hcname (namesMatch_symm hdname))
  simp only [checkReference_eq_ok, htable, hd, Option.some.injEq, exists_eq_left']
  rfl

/-- What passes the gate still does so when references are replaced or dropped. -/
lemma checkReference_mapAllReferences {g : String → ColumnDef → Reference → Option Reference}
    {h : Reference → Option Reference} (hcheck : checkReference tables owner source r = .ok ()) :
    checkReference (mapAllReferences g tables) owner (source.mapReference h) r = .ok () := by
  obtain ⟨t, ht, c, hc, hself, hkey, hfits⟩ := checkReference_eq_ok.mp hcheck
  refine checkReference_eq_ok.mpr
    ⟨{ t with columns := t.columns.map fun c => c.modify fun d => d.mapReference (g t.name d) }, ?_,
      c.modify fun d => d.mapReference (g t.name d), ?_, hself, hkey, ?_⟩
  · rw [tableNamed?, mapAllReferences, List.find?_map]
    exact congrArg (Option.map _) ht
  · rw [Table.column?, List.find?_map]
    exact congrArg (Option.map _) hc
  · exact (ColumnDef.incompatibility?_congr ⟨rfl, rfl⟩ ⟨rfl, rfl⟩).trans hfits

end Gate

/-! ### Columns named anew -/

section Places

variable {s : Schema} {command : Command} {k l : ℕ} {t : Table} {c : Column}

/-- Distinct names tell the place addressed. -/
lemma Command.isAtColumn_iff_isAbout (hs : s.HasDistinctNames) (ht : s.tables[k]? = some t)
    (hc : t.columns[l]? = some c) : command.IsAtColumn s k l ↔ command.IsAbout s t c := by
  constructor
  · rintro ⟨⟨p, hp, rfl⟩, q, hq, rfl⟩
    obtain rfl := Option.some.inj (ht.symm.trans (getElem?_of_tableAt? hp))
    obtain rfl := Option.some.inj (hc.symm.trans (getElem?_of_columnAt? hp hq))
    exact ⟨congrArg _ hp, congrArg _ hq⟩
  · rintro ⟨htable, hcolumn⟩
    obtain ⟨p, hp, rfl⟩ := Option.map_eq_some_iff.mp htable
    obtain ⟨q, hq, rfl⟩ := Option.map_eq_some_iff.mp hcolumn
    have hi := getElem?_of_tableAt? hp
    have hj := getElem?_of_columnAt? hp hq
    exact ⟨⟨p, hp, hs.table_place hi ht (namesMatch_refl _)⟩, q, hq,
      hs.column_place (List.mem_of_getElem? hi) hj hc (namesMatch_refl _)⟩

end Places

/-- The command gives the column `d`, at the place `j` of the table at the place `i`, the name and
content of `new`, and nothing else gets a new name. -/
structure Command.NamesColumn (fresh : TableId) (s s' : Schema) (command : Command) (i j : ℕ)
    (t t' : Table) (new : ColumnDef) (d : Column) : Prop where
  frame : command.Frame fresh s s'.tables
  keepsNames : ¬command.RenamesTable
  remaining : command.remaining s = s.tables
  newColumn : command.newColumn? s = some (t, new)
  before : s.tables[i]? = some t
  free : ∀ c ∈ t.columns, namesMatch c.name new.name = false
  after : s'.tables[i]? = some t'
  names : s'.tables.map (fun t => t.name) = s.tables.map fun t => t.name
  column : t'.columns[j]? = some d
  distinct : DistinctNames (t'.columns.map fun c => c.name)
  name : d.name = new.name
  primaryKey : d.primaryKey = new.primaryKey
  hasTypeOf : d.toColumnDef.HasTypeOf new
  reference : d.reference = new.reference.map (command.carried s)
  place : ∀ k l, command.IsAtColumn s k l → k = i ∧ l = j
  resolves_of_touches : ∀ r : Reference, command.Touches s r → r.Resolves s.tables
  carried_eq : ∀ r : Reference, ¬r.Resolves s.tables → command.carried s r = r
  resolves : ∀ r : Reference, r.Resolves s'.tables →
    r.Resolves s.tables ∨ r.names t.name new.name = true

namespace Command.NamesColumn

variable {s s' : Schema} {command : Command} {fresh : TableId} {i j k l : ℕ} {t t' u u' : Table}
  {new : ColumnDef} {d c c' : Column} {r : Reference}

lemma table_name (h : command.NamesColumn fresh s s' i j t t' new d) : t'.name = t.name := by
  have hname := congrArg (fun names => names[i]?) h.names
  simpa only [List.getElem?_map, h.before, h.after, Option.map_some, Option.some.injEq] using hname

lemma tables_distinct (h : command.NamesColumn fresh s s' i j t t' new d)
    (hs : s.HasDistinctNames) : DistinctNames (s'.tables.map fun t => t.name) :=
  h.names ▸ hs.tables

lemma names_new (h : command.NamesColumn fresh s s' i j t t' new d)
    (hr : r.names t.name new.name = true) : r.names t'.name d.name = true := by
  rw [h.table_name, h.name]
  exact hr

/-- The name that is new has been free. -/
lemma not_resolves (h : command.NamesColumn fresh s s' i j t t' new d) (hs : s.HasDistinctNames)
    (hr : r.names t.name new.name = true) : ¬r.Resolves s.tables := by
  rintro ⟨u, hu, htable, c, hc, hcolumn⟩
  obtain ⟨htname, hcname⟩ := Reference.names_iff.mp hr
  obtain rfl := hs.tables.eq_of_mem hu (List.mem_of_getElem? h.before)
    (namesMatch_trans htable (namesMatch_symm htname))
  exact absurd (namesMatch_trans hcolumn (namesMatch_symm hcname)) (by simp [h.free c hc])

section Column

variable (hs : s.HasDistinctNames) (hu : s.tables[k]? = some u) (hu' : s'.tables[k]? = some u')
  (hc : u.columns[l]? = some c) (hc' : u'.columns[l]? = some c')

include hu hu' hc hc' in
/-- A dangling reference of another column stays as it is. -/
lemma reference_eq (h : command.NamesColumn fresh s s' i j t t' new d)
    (hat : ¬command.IsAtColumn s k l) (hr : c.reference = some r)
    (hdangling : ¬r.Resolves s.tables) : c'.reference = some r := by
  have hkeeps := (h.frame.tables k u u' (h.remaining ▸ hu) hu').columns l c c' hc hc'
  rcases hkeeps.reference with hsets | hsame | ⟨q, hq, htouches⟩
  · exact absurd hsets.2 hat
  · exact hsame.trans hr
  · obtain rfl := Option.some.inj (hr.symm.trans hq)
    exact absurd (h.resolves_of_touches r htouches) hdangling

include hs hu hu' hc hc' in
/-- The gate, asked after the command for a reference to the new name. -/
lemma checkReference_eq_ok_iff (h : command.NamesColumn fresh s s' i j t t' new d)
    (hr : r.names t.name new.name = true) :
    checkReference s'.tables u'.name c'.toColumnDef r = .ok ()
      ↔ ¬command.IsAtColumn s k l ∧ c.toColumnDef.MayReferTo new := by
  have hkeeps := h.frame.tables k u u' (h.remaining ▸ hu) hu'
  have hname := hkeeps.name.resolve_left fun hat => h.keepsNames hat.1
  rw [checkReference_eq_ok_of_mem (h.tables_distinct hs) (List.mem_of_getElem? h.after) h.distinct
    (List.mem_of_getElem? h.column) (h.names_new hr)]
  by_cases hat : command.IsAtColumn s k l
  · obtain ⟨rfl, rfl⟩ := h.place k l hat
    obtain rfl := Option.some.inj (h.after.symm.trans hu')
    obtain rfl := Option.some.inj (h.column.symm.trans hc')
    simp [hat]
  · have hcontent := (hkeeps.columns l c c' hc hc').content.resolve_left fun hedits => hat hedits.2
    have hself : (namesMatch t'.name u'.name && namesMatch d.name c'.name) = false := by
      rw [← Bool.not_eq_true, Bool.and_eq_true, h.table_name, hname, h.name, hcontent]
      rintro ⟨htable, hcolumn⟩
      obtain rfl := hs.tables.eq_of_mem (List.mem_of_getElem? h.before) (List.mem_of_getElem? hu)
        htable
      exact absurd (namesMatch_symm hcolumn) (by simp [h.free c (List.mem_of_getElem? hc)])
    have hfits : c'.toColumnDef.MayReferTo d.toColumnDef ↔ c.toColumnDef.MayReferTo new := by
      have htype : c'.toColumnDef.HasTypeOf c.toColumnDef := by
        rw [hcontent]
        exact ⟨rfl, rfl⟩
      rw [ColumnDef.MayReferTo, ColumnDef.MayReferTo, h.primaryKey,
        ColumnDef.incompatibility?_congr htype h.hasTypeOf]
    simp [hself, hfits, hat]

include hs hu hu' hc hc' in
/-- A reference that has waited for the new name and is still there passes the gate if and only if
it is fit for the column named anew. -/
lemma passes_iff_fit (h : command.NamesColumn fresh s s' i j t t' new d)
    (hr : c.reference = some r) (hnames : r.names t.name new.name = true) :
    (c'.reference = some r → checkReference s'.tables u'.name c'.toColumnDef r = .ok ())
      ↔ ¬if command.IsAbout s u c then new.reference.map (command.carried s) = some r
        else ¬c.toColumnDef.MayReferTo new := by
  rw [h.checkReference_eq_ok_iff hs hu hu' hc hc' hnames, isAtColumn_iff_isAbout hs hu hc]
  split_ifs with habout
  · have hat := (isAtColumn_iff_isAbout hs hu hc).mpr habout
    obtain ⟨rfl, rfl⟩ := h.place k l hat
    obtain rfl := Option.some.inj (h.after.symm.trans hu')
    obtain rfl := Option.some.inj (h.column.symm.trans hc')
    simp only [habout, not_true_eq_false, false_and, imp_false, h.reference]
  · have hkept := h.reference_eq hu hu' hc hc' (mt (isAtColumn_iff_isAbout hs hu hc).mp habout) hr
      (h.not_resolves hs hnames)
    simp only [hkept, habout, not_false_eq_true, true_and, true_imp_iff, not_not]

end Column

/-- What dangled comes to life unchecked if and only if it is not fit for the column named anew. -/
lemma iff_not_wakesUnfit (h : command.NamesColumn fresh s s' i j t t' new d)
    (hs : s.HasDistinctNames) : command.RevivesSafely s s' ↔ ¬command.WakesUnfit s := by
  constructor
  · rintro hsafe ⟨p, hp, u, hu, c, hc, r, hr, hnames, hunfit⟩
    obtain rfl := Option.some.inj (h.newColumn.symm.trans hp)
    obtain ⟨k, hu⟩ := List.mem_iff_getElem?.mp hu
    obtain ⟨l, hc⟩ := List.mem_iff_getElem?.mp hc
    obtain ⟨u', hu'⟩ := h.frame.exists_table (h.remaining ▸ hu)
    obtain ⟨c', hc'⟩ := (h.frame.tables k u u' (h.remaining ▸ hu) hu').exists_column hc
    have hdangling := h.not_resolves hs hnames
    have hresolves : r.Resolves s'.tables := .of_names (List.mem_of_getElem? h.after)
      (List.mem_of_getElem? h.column) (h.names_new hnames)
    have hpasses := hsafe k l u u' c c' r (h.remaining ▸ hu) hu' hc hc' hr hdangling
    rw [h.carried_eq r hdangling] at hpasses
    exact (h.passes_iff_fit hs hu hu' hc hc' hr hnames).mp (fun hkept => hpasses hkept hresolves)
      hunfit
  · intro hwakes k l u u' c c' r hu hu' hc hc' hr hdangling
    rw [h.remaining] at hu
    rw [h.carried_eq r hdangling]
    intro hkept hresolves
    have hnames := (h.resolves r hresolves).resolve_left hdangling
    refine (h.passes_iff_fit hs hu hu' hc hc' hr hnames).mpr (fun hunfit => hwakes ?_) hkept
    exact ⟨_, h.newColumn, u, List.mem_of_getElem? hu, c, List.mem_of_getElem? hc, r, hr, hnames,
      hunfit⟩

end Command.NamesColumn

/-! ### Each kind of change -/

namespace Schema

variable {s s' : Schema} {fresh id : TableId} {command : Command}

/-- A command is safe if all that resolves after it did so before. -/
lemma revivesSafely_of_resolves (hcarried : ∀ r, command.carried s r = r)
    (h : ∀ r : Reference, r.Resolves s'.tables → r.Resolves s.tables) :
    command.RevivesSafely s s' := by
  intro k l t t' c c' r _ _ _ _ _ hdangling _ hresolves
  rw [hcarried] at hresolves
  exact absurd (h r hresolves) hdangling

/-- What dangled and meets the new name of a table has passed the gate, and nothing else is
revived. -/
lemma revivesSafely_renameTable {name : String} (hs : s.HasDistinctNames)
    (h : s.renameTable id name = .ok s') : (Command.renameTable id name).RevivesSafely s s' := by
  obtain ⟨-, hfree, i, table, hi, renamed, hrenamed, hs'⟩ := renameTable_effect h
  have htable : (Command.renameTable id name).tableAt? s = some (i, table) :=
    Command.tableAt?_eq_some rfl hi
  obtain ⟨hget, hid⟩ := locate_spec hi
  have hall : s'.tables = mapAllReferences (fun owner d =>
    renamedReference renamed table.name (Text.trim name) owner d) renamed := hs'
  -- apart from the renamed table, what resolves afterwards is what resolved before
  have hother : ∀ r : Reference, r.Resolves renamed →
      namesMatch (Text.trim name) r.table = false → r.Resolves s.tables := by
    rintro r ⟨v, hv, htname, hcolumn⟩ hnew
    rcases eq_or_of_mem_modify (hrenamed ▸ hv) hget with rfl | ⟨k, -, hk⟩
    · exact absurd htname (by simp [hnew])
    · exact ⟨v, List.mem_of_getElem? hk, htname, hcolumn⟩
  have hrenamedTable : ∀ r : Reference, r.Resolves renamed →
      namesMatch (Text.trim name) r.table = true →
        ∃ c ∈ table.columns, namesMatch c.name r.column = true := by
    rintro r ⟨v, hv, htname, hcolumn⟩ hnew
    rcases eq_or_of_mem_modify (hrenamed ▸ hv) hget with rfl | ⟨k, -, hk⟩
    · exact hcolumn
    · have hvid := hfree v (List.mem_of_getElem? hk)
        (namesMatch_trans htname (namesMatch_symm hnew))
      obtain rfl := List.inj_on_of_nodup_map hs.ids (List.mem_of_getElem? hk)
        (List.mem_of_getElem? hget) (hvid.trans hid.symm)
      exact hcolumn
  intro k l t t' c c' r ht ht' hc hc' hr hdangling hkept hresolves
  rw [hall, Reference.resolves_mapAllReferences] at hresolves
  rw [hall, mapAllReferences, List.getElem?_map, Option.map_eq_some_iff] at ht'
  obtain ⟨u, hu, rfl⟩ := ht'
  have hcolumns : u.columns = t.columns := by
    have ht : s.tables[k]? = some t := ht
    rw [hrenamed, List.getElem?_modify, ht] at hu
    obtain rfl := Option.some.inj hu
    by_cases hk : i = k <;> simp [hk]
  rw [List.getElem?_map, hcolumns, hc] at hc'
  obtain rfl := Option.some.inj hc'
  simp only [Column.modify_toColumnDef, ColumnDef.mapReference, hr, Option.bind_some,
    renamedReference] at hkept
  simp only [Command.carried, htable, Option.elim_some] at hkept hresolves ⊢
  split_ifs at hkept hresolves ⊢ with hold hnew
  · -- the reference follows the renamed table, which has no more columns than before
    obtain ⟨d, hd, hdname⟩ := hrenamedTable _ hresolves (namesMatch_refl _)
    exact absurd ⟨table, List.mem_of_getElem? hget, namesMatch_symm hold, d, hd, hdname⟩ hdangling
  · split at hkept
    · rename_i hcheck
      rw [hall]
      exact checkReference_mapAllReferences hcheck
    · cases hkept
  · refine absurd (hother r hresolves ?_) hdangling
    rw [← Bool.not_eq_true]
    exact fun hmatch => hnew (namesMatch_symm hmatch)

lemma resolves_of_deleteTable (h : s.deleteTable id = .ok s') {r : Reference}
    (hr : r.Resolves s'.tables) : r.Resolves s.tables := by
  obtain ⟨i, table, -, hs'⟩ := deleteTable_effect h
  rw [hs'] at hr
  have hrest : r.Resolves (s.tables.eraseIdx i) := Reference.resolves_mapAllReferences
    (g := fun _ _ r => if namesMatch r.table table.name then none else some r) |>.mp hr
  exact hrest.mono fun t ht => ⟨t, List.mem_of_mem_eraseIdx ht, rfl, fun c hc => ⟨c, hc, rfl⟩⟩

lemma resolves_of_removeColumn {name : String} (h : s.removeColumn id name = .ok s')
    {r : Reference} (hr : r.Resolves s'.tables) : r.Resolves s.tables := by
  obtain ⟨i, table, hi, j, removed, -, hs'⟩ := removeColumn_effect h
  rw [hs'] at hr
  have hrest : r.Resolves (s.tables.modify i fun t =>
      { t with columns := t.columns.eraseIdx j }) := Reference.resolves_mapAllReferences
    (g := fun _ _ r => if r.names table.name removed.name then none else some r) |>.mp hr
  exact hrest.of_modify_of_subset (locate_spec hi).1 rfl fun c hc =>
    List.mem_map_of_mem (List.mem_of_mem_eraseIdx hc)

lemma resolves_of_withReference {i j : ℕ} {q : Option Reference} {table : Table}
    (hi : s.tables[i]? = some table) {r : Reference}
    (hr : r.Resolves (s.withReference i j q).tables) : r.Resolves s.tables := by
  refine hr.of_modify_of_subset hi rfl fun c hc => ?_
  rw [← map_modify_of_eq (i := j) (f := fun c : Column => { c with reference := q })
    (g := fun c => c.name) fun _ => rfl]
  exact List.mem_map_of_mem hc

lemma resolves_of_setPrimaryKey {name : String} (h : s.setPrimaryKey id name = .ok s')
    {r : Reference} (hr : r.Resolves s'.tables) : r.Resolves s.tables := by
  obtain ⟨i, table, hi, j, chosen, -, hs'⟩ := setPrimaryKey_effect h
  rw [hs'] at hr
  refine hr.of_modify_of_subset (locate_spec hi).1 rfl fun c hc => ?_
  rw [← Column.IsKeyBlind.map_soleKeyAt (g := fun c => c.name) (fun _ _ _ _ => rfl) j]
  exact List.mem_map_of_mem hc

/-- A column added is named anew. -/
lemma namesColumn_addColumn (fresh : TableId) {column : Column} (hs : s.HasDistinctNames)
    (h : s.addColumn id column = .ok s') :
    ∃ i j t t' new d, (Command.addColumn id column).NamesColumn fresh s s' i j t t' new d := by
  obtain ⟨i, table, hi, -, added, hadded, hfree, -, hs'⟩ := addColumn_effect h
  have htable : (Command.addColumn id column).tableAt? s = some (i, table) :=
    Command.tableAt?_eq_some rfl hi
  have hget := (locate_spec hi).1
  have hnames : (table.append added).columns.map (fun c => c.name)
      = table.columns.map (fun c => c.name) ++ [added.name] :=
    Column.IsKeyBlind.map_append (fun _ _ _ _ => rfl) added
  obtain ⟨d, hd, hdef⟩ := table.exists_append added
  refine ⟨i, table.columns.length, table, table.append added, added.toColumnDef, d, ?_⟩
  exact {
    frame := frame_addColumn h
    keepsNames := fun hrenames => hrenames
    remaining := rfl
    newColumn := by rw [Command.newColumn?, htable, hadded]; rfl
    before := hget
    free := hfree
    after := by rw [hs', List.getElem?_modify_eq, hget]; rfl
    names := by rw [hs']; exact map_modify_of_eq fun _ => rfl
    column := hd
    distinct := by
      rw [hnames]
      exact (hs.columns table (List.mem_of_getElem? hget)).append
        (List.forall_mem_map.mpr hfree)
    name := (congrArg ColumnDef.name hdef :)
    primaryKey := (congrArg ColumnDef.primaryKey hdef :)
    hasTypeOf := ⟨(congrArg ColumnDef.type hdef :), (congrArg ColumnDef.size hdef :)⟩
    reference := by rw [hdef]; exact (congrFun Option.map_id _).symm
    place := by
      rintro k l ⟨-, q, hq, -⟩
      simp [Command.columnAt?, Command.columnName?] at hq
    resolves_of_touches := by
      rintro r ⟨p, -, hfalse⟩
      exact hfalse.elim
    carried_eq := fun _ _ => rfl
    resolves := by
      intro r hr
      rw [hs'] at hr
      refine hr.or_names_of_modify hget rfl fun c hc => ?_
      have hname : c.name ∈ table.columns.map (fun c => c.name) ++ [added.name] :=
        hnames ▸ List.mem_map_of_mem hc
      exact (List.mem_append.mp hname).imp_right List.mem_singleton.mp }

section Update

variable {name : String} {i j : ℕ} {table : Table} {current placed replacement : Column}
  {isNewKey : Bool}

lemma Command.columnAt?_updateColumn (replacement : Column) (hi : s.locate id = .ok (i, table))
    (hj : table.locate name = .ok (j, current)) :
    (Command.updateColumn id name replacement).tableAt? s = some (i, table)
      ∧ (Command.updateColumn id name replacement).columnAt? s = some (j, current) :=
  have htable : (Command.updateColumn id name replacement).tableAt? s = some (i, table) :=
    Command.tableAt?_eq_some rfl hi
  ⟨htable, Command.columnAt?_eq_some htable rfl hj⟩

/-- Replacing a column turns references to its old name into references to its new one. -/
lemma carried_updateColumn (hi : s.locate id = .ok (i, table))
    (hj : table.locate name = .ok (j, current)) (r : Reference) :
    (Command.updateColumn id name replacement).carried s r
      = if !namesMatch current.name (Text.trim replacement.name)
          && r.names table.name current.name then
        { r with column := Text.trim replacement.name } else r := by
  obtain ⟨htable, hcolumn⟩ := Command.columnAt?_updateColumn replacement hi hj
  simp only [Command.carried, htable, hcolumn, Option.elim_some]

/-- A replaced column stands in its place, and all references are carried along. -/
lemma updateColumn_effect_carried (h : s.updateColumn id name replacement = .ok s') :
    ∃ i table, s.locate id = .ok (i, table) ∧ ∃ j current, table.locate name = .ok (j, current)
      ∧ ∃ placed : Column,
        placed = { replacement with name := Text.trim replacement.name, id := current.id }
          ∧ (namesMatch current.name placed.name = false →
            ∀ c ∈ table.columns, namesMatch c.name placed.name = false)
          ∧ (bringsReference current.toColumnDef placed.toColumnDef = true →
            checkOwnReference s.tables table.name placed.toColumnDef = .ok ())
          ∧ s'.tables = mapAllReferences
            (fun _ _ r => some ((Command.updateColumn id name replacement).carried s r))
            (s.tables.modify i
              (Table.put j (placed.primaryKey && !current.primaryKey) placed)) := by
  obtain ⟨i, table, hi, j, current, hj, -, placed, rfl, hfree, hcheck, hs'⟩ := updateColumn_effect h
  refine ⟨i, table, hi, j, current, hj, _, rfl, hfree, hcheck, ?_⟩
  simp only [carried_updateColumn hi hj]
  exact hs'

/-- A column stays in its place when all references are replaced. -/
lemma getElem?_mapAllReferences (carry : Reference → Option Reference) {tables : List Table}
    {k l : ℕ} {t : Table} {c : Column} (ht : tables[k]? = some t) (hc : t.columns[l]? = some c) :
    (mapAllReferences (fun _ _ => carry) tables)[k]? = some (t.mapReferences carry)
      ∧ (t.mapReferences carry).columns[l]?
        = some (c.modify (ColumnDef.mapReference carry)) := by
  constructor
  · rw [mapAllReferences, List.getElem?_map, ht]
    rfl
  · rw [Table.mapReferences, List.getElem?_map, hc]
    rfl

/-- The column in the place of the replaced one. -/
lemma exists_updatedColumn (h : s.updateColumn id name replacement = .ok s')
    (hi : s.locate id = .ok (i, table)) (hj : table.locate name = .ok (j, current)) :
    ∃ t' d, s'.tables[i]? = some t' ∧ t'.columns[j]? = some d ∧ t'.id = table.id
      ∧ t'.name = table.name ∧ d.name = Text.trim replacement.name
      ∧ d.primaryKey = replacement.primaryKey
      ∧ d.toColumnDef.HasTypeOf replacement.toColumnDef
      ∧ d.reference
        = replacement.reference.map ((Command.updateColumn id name replacement).carried s) := by
  obtain ⟨i', table', hi', j', current', hj', placed, hplaced, -, -, hs'⟩ :=
    updateColumn_effect_carried h
  obtain ⟨rfl, rfl⟩ := Prod.mk.inj (Except.ok.inj (hi.symm.trans hi'))
  obtain ⟨rfl, rfl⟩ := Prod.mk.inj (Except.ok.inj (hj.symm.trans hj'))
  obtain ⟨d, hd, hdef⟩ := Table.exists_put (placed.primaryKey && !current.primaryKey) placed
    (Table.locate_spec hj).1 fun hkey => (Bool.and_eq_true_iff.mp hkey).1
  have hput : (s.tables.modify i (Table.put j (placed.primaryKey && !current.primaryKey)
      placed))[i]? = some (table.put j (placed.primaryKey && !current.primaryKey) placed) := by
    rw [List.getElem?_modify_eq, (locate_spec hi).1]
    rfl
  obtain ⟨ht', hd'⟩ := getElem?_mapAllReferences
    (fun r => some ((Command.updateColumn id name replacement).carried s r)) hput hd
  refine ⟨_, _, hs' ▸ ht', hd', rfl, rfl, ?_, ?_, ⟨?_, ?_⟩, ?_⟩
  · exact (congrArg ColumnDef.name hdef).trans (by rw [hplaced])
  · exact (congrArg ColumnDef.primaryKey hdef).trans (by rw [hplaced])
  · exact (congrArg ColumnDef.type hdef).trans (by rw [hplaced])
  · exact (congrArg ColumnDef.size hdef).trans (by rw [hplaced])
  · rw [Column.modify_toColumnDef, ColumnDef.mapReference, hdef, hplaced]
    exact Option.map_eq_bind.symm

/-- A column put in the place of another one answers to its own name and to no other new one. -/
lemma resolves_or_names_of_put {g : String → ColumnDef → Reference → Option Reference}
    (hi : s.tables[i]? = some table) {r : Reference}
    (hr : r.Resolves (mapAllReferences g (s.tables.modify i (Table.put j isNewKey placed)))) :
    r.Resolves s.tables ∨ r.names table.name placed.name = true := by
  refine (Reference.resolves_mapAllReferences.mp hr).or_names_of_modify hi rfl fun c hc => ?_
  have hname : c.name ∈ (table.columns.map fun c => c.name).set j placed.name := by
    rw [← Column.IsKeyBlind.map_put (g := fun c => c.name) (fun _ _ _ _ => rfl) j isNewKey placed]
    exact List.mem_map_of_mem hc
  exact List.mem_or_eq_of_mem_set hname

/-- A column put in the place of one with another name is named anew. -/
lemma namesColumn_updateColumn (fresh : TableId) (hs : s.HasDistinctNames)
    (h : s.updateColumn id name replacement = .ok s') (hi : s.locate id = .ok (i, table))
    (hj : table.locate name = .ok (j, current))
    (hplaced : placed
      = { replacement with name := Text.trim replacement.name, id := current.id })
    (hren : namesMatch current.name placed.name = false)
    (hfree : ∀ c ∈ table.columns, namesMatch c.name placed.name = false)
    (hs' : s'.tables = mapAllReferences
      (fun _ _ r => some ((Command.updateColumn id name replacement).carried s r))
      (s.tables.modify i (Table.put j (placed.primaryKey && !current.primaryKey) placed))) :
    ∃ t' d, (Command.updateColumn id name replacement).NamesColumn fresh s s' i j table
      t' placed.toColumnDef d := by
  obtain ⟨htable, hcolumn⟩ := Command.columnAt?_updateColumn replacement hi hj
  have hget := (locate_spec hi).1
  have hcurrent := (Table.locate_spec hj).1
  obtain ⟨t', d, ht', hd, -, -, hdname, hdkey, hdtype, hdreference⟩ := exists_updatedColumn h hi hj
  have hdistinct : s'.HasDistinctNames :=
    .of_tables hs' (.mapAllReferences (hs.put hget hcurrent (fun _ => hfree) _) _)
  refine ⟨t', d, ?_⟩
  exact {
    frame := frame_updateColumn h
    keepsNames := fun hrenames => hrenames
    remaining := rfl
    newColumn := by
      rw [Command.newColumn?, htable, Option.bind_some, hcolumn, Option.bind_some, hplaced]
      rw [hplaced] at hren
      exact if_neg (by simp [hren])
    before := hget
    free := hfree
    after := ht'
    names := by
      rw [hs', mapAllReferences, List.map_map]
      exact map_modify_of_eq fun _ => rfl
    column := hd
    distinct := hdistinct.columns t' (List.mem_of_getElem? ht')
    name := by rw [hdname, hplaced]
    primaryKey := by rw [hdkey, hplaced]
    hasTypeOf := by rw [hplaced]; exact hdtype
    reference := by rw [hdreference, hplaced]
    place := fun _ _ => Command.eq_of_isAtColumn htable hcolumn
    resolves_of_touches := by
      rintro r ⟨p, hp, q, hq, -, hnames⟩
      obtain rfl := Option.some.inj (htable.symm.trans hp)
      obtain rfl := Option.some.inj (hcolumn.symm.trans hq)
      exact .of_names (List.mem_of_getElem? hget) (List.mem_of_getElem? hcurrent) hnames
    carried_eq := by
      intro r hdangling
      rw [carried_updateColumn hi hj]
      refine if_neg fun hfollow => hdangling ?_
      exact .of_names (List.mem_of_getElem? hget) (List.mem_of_getElem? hcurrent)
        (Bool.and_eq_true_iff.mp hfollow).2
    resolves := fun r hr => resolves_or_names_of_put hget (hs' ▸ hr) }

/-- A replaced column is named anew or answers to what it has answered to. -/
lemma revivesSafely_updateColumn_iff (hs : s.HasDistinctNames)
    (h : s.updateColumn id name replacement = .ok s') :
    (Command.updateColumn id name replacement).RevivesSafely s s'
      ↔ ¬(Command.updateColumn id name replacement).WakesUnfit s := by
  obtain ⟨i, table, hi, j, current, hj, placed, hplaced, hfree, -, hs'⟩ :=
    updateColumn_effect_carried h
  obtain ⟨htable, hcolumn⟩ := Command.columnAt?_updateColumn replacement hi hj
  have hget := (locate_spec hi).1
  cases hren : namesMatch current.name placed.name with
  | false =>
    obtain ⟨t', d, hnames⟩ :=
      namesColumn_updateColumn id hs h hi hj hplaced hren (hfree hren) hs'
    exact hnames.iff_not_wakesUnfit hs
  | true =>
    have hren' : namesMatch current.name (Text.trim replacement.name) = true := by
      rw [hplaced] at hren
      exact hren
    refine iff_of_true (revivesSafely_of_resolves (fun r => ?_) fun r hr => ?_) ?_
    · rw [carried_updateColumn hi hj, hren']
      rfl
    · rcases resolves_or_names_of_put hget (hs' ▸ hr) with hr | hr
      · exact hr
      · refine .of_names (List.mem_of_getElem? hget)
          (List.mem_of_getElem? (Table.locate_spec hj).1) ?_
        rwa [Reference.names_congr hren]
    · rintro ⟨p, hp, -⟩
      rw [Command.newColumn?, htable, Option.bind_some, hcolumn, Option.bind_some,
        if_pos hren'] at hp
      cases hp

end Update

/-- After an accepted command on a schema whose names are distinct, each reference that dangled and
now resolves would pass the gate, if and only if the command does not give a column a name for which
an unfit reference has waited. -/
theorem revivesSafely_iff (hs : s.HasDistinctNames) (h : s.apply fresh command = .ok s') :
    command.RevivesSafely s s' ↔ ¬command.WakesUnfit s := by
  have hnone : command.newColumn? s = none → ¬command.WakesUnfit s := by
    rintro hnone ⟨p, hp, -⟩
    rw [hnone] at hp
    cases hp
  cases command with
  | addTable name =>
    obtain ⟨-, -, hs'⟩ := addTable_effect h
    refine iff_of_true (revivesSafely_of_resolves (fun _ => rfl) fun r hr => ?_) (hnone rfl)
    obtain ⟨t, ht, htname, c, hc, hcname⟩ := hs' ▸ hr
    rcases List.mem_append.mp ht with ht | ht
    · exact ⟨t, ht, htname, c, hc, hcname⟩
    · rw [List.mem_singleton.mp ht] at hc
      exact absurd hc List.not_mem_nil
  | renameTable id name => exact iff_of_true (revivesSafely_renameTable hs h) (hnone rfl)
  | deleteTable id =>
    exact iff_of_true (revivesSafely_of_resolves (fun _ => rfl) fun _ => resolves_of_deleteTable h)
      (hnone rfl)
  | moveTable id position =>
    obtain ⟨i, table, hi, hs'⟩ := moveTable_effect h
    refine iff_of_true (revivesSafely_of_resolves (fun _ => rfl) fun r hr => ?_) (hnone rfl)
    exact (hs' ▸ hr).of_modify_of_subset (locate_spec hi).1 rfl fun c hc => List.mem_map_of_mem hc
  | setComment id comment =>
    obtain ⟨i, table, hi, hs'⟩ := setComment_effect h
    refine iff_of_true (revivesSafely_of_resolves (fun _ => rfl) fun r hr => ?_) (hnone rfl)
    exact (hs' ▸ hr).of_modify_of_subset (locate_spec hi).1 rfl fun c hc => List.mem_map_of_mem hc
  | addColumn id column =>
    obtain ⟨i, j, t, t', new, d, hnames⟩ := namesColumn_addColumn fresh hs h
    exact hnames.iff_not_wakesUnfit hs
  | updateColumn id name replacement => exact revivesSafely_updateColumn_iff hs h
  | removeColumn id name =>
    exact iff_of_true (revivesSafely_of_resolves (fun _ => rfl) fun _ => resolves_of_removeColumn h)
      (hnone rfl)
  | setPrimaryKey id name =>
    exact iff_of_true (revivesSafely_of_resolves (fun _ => rfl) fun _ =>
      resolves_of_setPrimaryKey h) (hnone rfl)
  | setForeignKey id name targetId targetName =>
    obtain ⟨i, table, hi, j, column, -, _, _, _, _, _, _, rfl⟩ := setForeignKey_effect h
    exact iff_of_true (revivesSafely_of_resolves (fun _ => rfl) fun _ =>
      resolves_of_withReference (locate_spec hi).1) (hnone rfl)
  | connect id name targetId targetName =>
    obtain ⟨i, table, hi, j, column, -, _, _, _, _, _, _, rfl⟩ := setForeignKey_effect h
    exact iff_of_true (revivesSafely_of_resolves (fun _ => rfl) fun _ =>
      resolves_of_withReference (locate_spec hi).1) (hnone rfl)
  | clearForeignKey id name =>
    obtain ⟨i, table, hi, j, column, -, rfl⟩ := clearForeignKey_effect h
    exact iff_of_true (revivesSafely_of_resolves (fun _ => rfl) fun _ =>
      resolves_of_withReference (locate_spec hi).1) (hnone rfl)

/-- A schema with a reference to a column that does not exist. -/
def waitingSchema : Schema where
  tables := [
    { id := ⟨"1"⟩, name := "users", columns := [
      { name := "id", type := .int, primaryKey := true, id := ⟨"a"⟩ }] },
    { id := ⟨"2"⟩, name := "orders", columns := [
      { name := "user_code", type := .int, reference := some ⟨"Users", "code"⟩, id := ⟨"b"⟩ }] }]

/-- The column that is waited for, as a primary key of the type that fits. -/
def fittingColumn : Column :=
  { name := " Code ", type := .int, primaryKey := true, id := ⟨"c"⟩ }

/-- The reference comes to life and would pass the gate, so that nothing is stale. -/
theorem revivesSafely_fittingColumn : waitingSchema.HasDistinctNames
    ∧ ∃ s', waitingSchema.apply ⟨"3"⟩ (.addColumn ⟨"1"⟩ fittingColumn) = .ok s'
      ∧ s'.staleReferences = []
      ∧ (Command.addColumn ⟨"1"⟩ fittingColumn).RevivesSafely waitingSchema s' := by
  have hs : waitingSchema.HasDistinctNames := ⟨by decide, by decide, by decide⟩
  have happly : waitingSchema.apply ⟨"3"⟩ (.addColumn ⟨"1"⟩ fittingColumn) = .ok _ := rfl
  exact ⟨hs, _, happly, by decide, (revivesSafely_iff hs happly).mpr (by decide)⟩

/-- The column that is waited for, as a text that is no primary key. -/
def unfitColumn : Column :=
  { name := "code", type := .text, id := ⟨"c"⟩ }

/-- The reference comes to life unchecked: it resolves, and the gate would refuse it. -/
theorem not_revivesSafely_unfitColumn : waitingSchema.HasDistinctNames
    ∧ ∃ s', waitingSchema.apply ⟨"3"⟩ (.addColumn ⟨"1"⟩ unfitColumn) = .ok s'
      ∧ ¬(Command.addColumn ⟨"1"⟩ unfitColumn).RevivesSafely waitingSchema s' := by
  refine ⟨⟨by decide, by decide, by decide⟩, _, rfl, fun hsafe => ?_⟩
  have hcheck := hsafe 1 0 _ _ _ _ ⟨"Users", "code"⟩ rfl rfl rfl rfl rfl (by decide) rfl
    (by decide)
  revert hcheck
  decide

end Schema

end SchemaDesigner
