/-
The shape that every sequence of changes keeps: identities and names that tell tables apart, names
that tell the columns of a table apart, and one primary key at most.

* `Table.WellFormed`, `Schema.WellFormed`: the shape of a table and of a schema;
* `Table.WellFormed.append`, `Table.WellFormed.put`, …: what may be done to the columns of a table;
* `Schema.WellFormed.modify`, `Schema.WellFormed.rename`, …: what may be done to the tables;
* `Schema.WellFormed.apply`: each accepted change keeps the shape;
* `Schema.DrawsFresh`, `Schema.run_induction`: what each change keeps, a sequence keeps;
* `Schema.wellFormed_run_empty`: the schemas built from nothing have the shape.
-/
import SchemaDesigner.Proofs.List
import SchemaDesigner.Proofs.Name
import SchemaDesigner.Proofs.Schema.Effect

namespace SchemaDesigner

/-! ### Tables -/

/-- The names of the columns are proper and distinct, and one column at most is the primary key. -/
structure Table.WellFormed (t : Table) : Prop where
  proper : ∀ c ∈ t.columns, IsProperName c.name
  distinct : DistinctNames (t.columns.map fun c => c.name)
  oneKey : t.columns.countP (fun c => c.primaryKey) ≤ 1

namespace Table.WellFormed

open Schema (withoutKeys)

variable {t u : Table}

/-- The shape of a table depends on its names and primary keys alone. -/
lemma of_names_eq (h : t.WellFormed)
    (hnames : u.columns.map (fun c => c.name) = t.columns.map fun c => c.name)
    (hkeys : u.columns.countP (fun c => c.primaryKey) ≤ 1) : u.WellFormed := by
  refine ⟨fun c hc => ?_, hnames ▸ h.distinct, hkeys⟩
  have hmem : c.name ∈ t.columns.map fun c => c.name := hnames ▸ List.mem_map_of_mem hc
  obtain ⟨d, hd, hname⟩ := List.mem_map.mp hmem
  exact hname ▸ h.proper d hd

/-- Other columns with the names and primary keys of the old ones keep the shape. -/
lemma map (h : t.WellFormed) {f : Column → Column} (hname : ∀ c, (f c).name = c.name)
    (hkey : ∀ c, (f c).primaryKey = c.primaryKey) :
    WellFormed { t with columns := t.columns.map f } := by
  refine h.of_names_eq ?_ ?_
  · simp [hname]
  · simpa [List.countP_map, Function.comp_def, hkey] using h.oneKey

lemma mapReferences (h : t.WellFormed) (f : Reference → Option Reference) :
    (t.mapReferences f).WellFormed :=
  h.map (fun _ => rfl) fun _ => rfl

/-- Without keys there is room for one. -/
lemma countP_withoutKeys (cs : List Column) :
    (withoutKeys cs).countP (fun c => c.primaryKey) = 0 := by
  simp [withoutKeys, List.countP_eq_zero]

lemma names_withoutKeys (cs : List Column) :
    (withoutKeys cs).map (fun c => c.name) = cs.map fun c => c.name :=
  Column.IsKeyBlind.map_withoutKeys (fun _ _ _ _ => rfl) cs

/-- A column of a new proper name may follow at the end. -/
lemma append (h : t.WellFormed) {c : Column} (hc : IsProperName c.name)
    (hnew : ∀ d ∈ t.columns, namesMatch d.name c.name = false) : (t.append c).WellFormed := by
  have hdistinct : DistinctNames ((t.columns.map fun c => c.name) ++ [c.name]) :=
    h.distinct.append (by simpa using hnew)
  cases hkey : c.primaryKey with
  | true =>
    refine ⟨?_, ?_, ?_⟩
    · simp only [Table.append, hkey, if_true, List.mem_append, List.mem_singleton]
      rintro d (hd | rfl)
      · obtain ⟨e, he, rfl⟩ := List.mem_map.mp hd
        exact h.proper e he
      · exact hc
    · simp only [Table.append, hkey, if_true, List.map_append, names_withoutKeys, List.map_cons,
        List.map_nil, Column.modify_toColumnDef, ColumnDef.asPrimaryKey]
      exact hdistinct
    · simp only [Table.append, hkey, if_true, List.countP_append, countP_withoutKeys]
      exact (Nat.zero_add _).le.trans List.countP_le_length
  | false =>
    refine ⟨?_, ?_, ?_⟩
    · simp only [Table.append, hkey, Bool.false_eq_true, if_false, List.mem_append,
        List.mem_singleton]
      rintro d (hd | rfl)
      · exact h.proper d hd
      · exact hc
    · simp only [Table.append, hkey, Bool.false_eq_true, if_false, List.map_append, List.map_cons,
        List.map_nil]
      exact hdistinct
    · simp only [Table.append, hkey, Bool.false_eq_true, if_false, List.countP_append,
        List.countP_singleton]
      exact h.oneKey

/-- The names stay distinct when a column takes the place of one whose name matches or when its own
is new. -/
lemma distinct_put (h : DistinctNames (t.columns.map fun c => c.name)) {c current : Column} {j : ℕ}
    (hj : t.columns[j]? = some current)
    (hnew : namesMatch current.name c.name = false →
      ∀ d ∈ t.columns, namesMatch d.name c.name = false) (isNewKey : Bool) :
    DistinctNames ((t.put j isNewKey c).columns.map fun c => c.name) := by
  rw [Column.IsKeyBlind.map_put (fun _ _ _ _ => rfl)]
  refine h.replace ?_ fun hm => List.forall_mem_map.mpr (hnew hm)
  rw [List.getElem?_map, hj, Option.map_some]

/-- A column may take the place of another if its name is new or matches the old one. -/
lemma put (h : t.WellFormed) {c current : Column} {j : ℕ} (hj : t.columns[j]? = some current)
    (hc : IsProperName c.name)
    (hnew : namesMatch current.name c.name = false →
      ∀ d ∈ t.columns, namesMatch d.name c.name = false) :
    (t.put j (c.primaryKey && !current.primaryKey) c).WellFormed := by
  obtain ⟨hlt, hget⟩ := List.getElem?_eq_some_iff.mp hj
  cases hkey : c.primaryKey && !current.primaryKey with
  | true =>
    refine ⟨?_, distinct_put h.distinct hj hnew true, ?_⟩
    · intro d hd
      simp only [Table.put, if_true] at hd
      rcases List.mem_or_eq_of_mem_set hd with hd | rfl
      · obtain ⟨e, he, rfl⟩ := List.mem_map.mp hd
        exact h.proper e he
      · exact hc
    · have hj' : j < (withoutKeys t.columns).length := by simpa [withoutKeys] using hlt
      simp only [Table.put, if_true]
      rw [List.countP_set hj', countP_withoutKeys]
      split_ifs <;> omega
  | false =>
    refine ⟨?_, distinct_put h.distinct hj hnew false, ?_⟩
    · intro d hd
      simp only [Table.put, Bool.false_eq_true, if_false] at hd
      rcases List.mem_or_eq_of_mem_set hd with hd | rfl
      · exact h.proper d hd
      · exact hc
    · have hone := h.oneKey
      have hle := List.boole_getElem_le_countP (p := fun c : Column => c.primaryKey) hlt
      simp only [Table.put, Bool.false_eq_true, if_false]
      rw [List.countP_set hlt, hget]
      rw [hget] at hle
      -- the new column is a key only where the old one was
      cases hcur : current.primaryKey <;> cases hnew : c.primaryKey <;> simp_all

lemma eraseIdx (h : t.WellFormed) (j : ℕ) :
    WellFormed { t with columns := t.columns.eraseIdx j } := by
  have hsub := List.eraseIdx_sublist (l := t.columns) (k := j)
  exact ⟨fun c hc => h.proper c (hsub.subset hc), h.distinct.sublist (hsub.map _),
    (hsub.countP_le).trans h.oneKey⟩

/-- One primary key at most is left by the choice of one. -/
lemma countP_soleKeyAt_le (j : ℕ) (cs : List Column) :
    (Table.soleKeyAt j cs).countP (fun c => c.primaryKey) ≤ 1 := by
  refine countP_mapIdx_le_one (j := j) (fun i c hi => ?_) cs
  rw [beq_false_of_ne hi]
  rfl

lemma soleKeyAt (h : t.WellFormed) (j : ℕ) :
    WellFormed { t with columns := Table.soleKeyAt j t.columns } :=
  h.of_names_eq (Column.IsKeyBlind.map_soleKeyAt (fun _ _ _ _ => rfl) j t.columns)
    (countP_soleKeyAt_le j t.columns)

end Table.WellFormed

/-! ### Schemas -/

/-- Identities that differ have different texts. -/
lemma nodup_idTexts {α : Type} {id : α → TableId} {l : List α} (hids : (l.map id).Nodup) :
    (l.map fun a => (id a).text).Nodup := by
  have htexts := hids.map (f := TableId.text) fun a b hab => congrArg TableId.mk hab
  rwa [List.map_map] at htexts

/-- The identities and the names of the tables are distinct, and each table is well formed. -/
structure Schema.WellFormed (s : Schema) : Prop where
  ids : (s.tables.map fun t => t.id).Nodup
  proper : ∀ t ∈ s.tables, IsProperName t.name
  distinct : DistinctNames (s.tables.map fun t => t.name)
  tables : ∀ t ∈ s.tables, t.WellFormed

/-- The command adds a table, which gets a generated identity. -/
def Command.AddsTable : Command → Prop
  | .addTable _ => True
  | _ => False

namespace Schema

lemma wellFormed_empty : empty.WellFormed :=
  ⟨List.nodup_nil, fun _ h => absurd h List.not_mem_nil, List.Pairwise.nil,
    fun _ h => absurd h List.not_mem_nil⟩

namespace WellFormed

variable {s s' : Schema} {id : TableId}

/-- Other tables with the identities and names of the old ones keep the shape if they are well
formed themselves. -/
lemma of_labels_eq (h : s.WellFormed)
    (hids : s'.tables.map (fun t => t.id) = s.tables.map fun t => t.id)
    (hnames : s'.tables.map (fun t => t.name) = s.tables.map fun t => t.name)
    (htables : ∀ t ∈ s'.tables, t.WellFormed) : s'.WellFormed := by
  refine ⟨hids ▸ h.ids, fun t ht => ?_, hnames ▸ h.distinct, htables⟩
  have hmem : t.name ∈ s.tables.map fun t => t.name := hnames ▸ List.mem_map_of_mem ht
  obtain ⟨u, hu, hname⟩ := List.mem_map.mp hmem
  exact hname ▸ h.proper u hu

lemma of_tables {tables : List Table} (hs : s.tables = tables) (h : WellFormed ⟨tables⟩) :
    s.WellFormed := by
  subst hs
  exact h

/-- A table may change if it keeps its identity and its name. -/
lemma modify (h : s.WellFormed) {i : ℕ} {f : Table → Table} (hid : ∀ t, (f t).id = t.id)
    (hname : ∀ t, (f t).name = t.name)
    (hf : ∀ t, s.tables[i]? = some t → t.WellFormed → (f t).WellFormed) :
    WellFormed ⟨s.tables.modify i f⟩ :=
  h.of_labels_eq (map_modify_of_eq hid) (map_modify_of_eq hname)
    (forall_mem_modify h.tables fun t ht => hf t ht (h.tables t (List.mem_of_getElem? ht)))

lemma mapReferences (h : s.WellFormed) (f : Reference → Option Reference) :
    WellFormed ⟨s.tables.map (Table.mapReferences f)⟩ := by
  refine h.of_labels_eq ?_ ?_ fun t ht => ?_
  · simp [Table.mapReferences]
  · simp [Table.mapReferences]
  · obtain ⟨u, hu, rfl⟩ := List.mem_map.mp ht
    exact (h.tables u hu).mapReferences f

lemma eraseIdx (h : s.WellFormed) (i : ℕ) : WellFormed ⟨s.tables.eraseIdx i⟩ := by
  have hsub := List.eraseIdx_sublist (l := s.tables) (k := i)
  exact ⟨h.ids.sublist (hsub.map _), fun t ht => h.proper t (hsub.subset ht),
    h.distinct.sublist (hsub.map _), fun t ht => h.tables t (hsub.subset ht)⟩

/-- A located table is the only one with its identity. -/
lemma eq_of_locate (h : s.WellFormed) {i : ℕ} {t u : Table} (hi : s.locate id = .ok (i, t))
    (hu : u ∈ s.tables) (hid : u.id = id) : u = t := by
  obtain ⟨ht, htid⟩ := locate_spec hi
  exact List.inj_on_of_nodup_map h.ids hu (List.mem_of_getElem? ht) (hid.trans htid.symm)

/-- A located table may take a name that no other table has. -/
lemma rename (h : s.WellFormed) {i : ℕ} {table : Table} {name : String}
    (hi : s.locate id = .ok (i, table)) (hname : IsProperName name)
    (hfree : ∀ t ∈ s.tables, namesMatch t.name name = true → t.id = id) :
    WellFormed ⟨s.tables.modify i fun t => { t with name := name }⟩ := by
  have hget := (locate_spec hi).1
  refine ⟨?_, ?_, ?_, ?_⟩
  · show ((s.tables.modify i _).map fun t => t.id).Nodup
    rw [map_modify_of_eq (f := fun t : Table => { t with name := name }) fun _ => rfl]
    exact h.ids
  · exact forall_mem_modify h.proper fun _ _ => hname
  · have hset : (s.tables.modify i fun t => { t with name := name }).map (fun t => t.name)
        = (s.tables.map fun t => t.name).set i name := by
      rw [List.modify_eq_set_getElem?, hget]
      simp [List.map_set]
    show DistinctNames ((s.tables.modify i _).map fun t => t.name)
    have hold : (s.tables.map fun t => t.name)[i]? = some table.name := by simp [hget]
    rw [hset]
    refine h.distinct.replace hold fun hm a ha => ?_
    obtain ⟨t, ht, rfl⟩ := List.mem_map.mp ha
    -- a table with the new name would be the renamed one, whose name does not match
    rw [← Bool.not_eq_true]
    intro hmatch
    rw [h.eq_of_locate hi ht (hfree t ht hmatch), hm] at hmatch
    exact Bool.false_ne_true hmatch
  · exact forall_mem_modify h.tables fun t ht =>
      (h.tables t (List.mem_of_getElem? ht)).of_names_eq rfl
        (h.tables t (List.mem_of_getElem? ht)).oneKey

/-- A table without columns may follow at the end if its identity and its name are new. -/
lemma add (h : s.WellFormed) {fresh : TableId} {name : String} {position : Position}
    (hid : ∀ t ∈ s.tables, t.id ≠ fresh) (hname : IsProperName name)
    (hfree : ∀ t ∈ s.tables, namesMatch t.name name = false) :
    WellFormed ⟨s.tables ++ [{ id := fresh, name := name, position := position }]⟩ := by
  refine ⟨?_, ?_, ?_, ?_⟩
  · rw [List.map_append]
    refine h.ids.append (List.nodup_singleton _) fun a ha hb => ?_
    obtain ⟨t, ht, rfl⟩ := List.mem_map.mp ha
    exact hid t ht (List.mem_singleton.mp hb)
  · intro t ht
    rcases List.mem_append.mp ht with ht | ht
    · exact h.proper t ht
    · rw [List.mem_singleton.mp ht]
      exact hname
  · rw [List.map_append]
    exact h.distinct.append (by simpa using hfree)
  · intro t ht
    rcases List.mem_append.mp ht with ht | ht
    · exact h.tables t ht
    · rw [List.mem_singleton.mp ht]
      exact ⟨fun _ hc => absurd hc List.not_mem_nil, List.Pairwise.nil, Nat.zero_le 1⟩

lemma withReference (h : s.WellFormed) (i j : ℕ) (r : Option Reference) :
    (s.withReference i j r).WellFormed := by
  refine h.modify (fun _ => rfl) (fun _ => rfl) fun t _ ht => ht.of_names_eq ?_ ?_
  · exact map_modify_of_eq fun _ => rfl
  · exact (countP_modify_of_eq (f := fun c : Column => { c with reference := r })
      fun _ => rfl).trans_le ht.oneKey

/-- Each accepted change keeps the shape, if a table that it adds gets a new identity. -/
theorem apply {fresh : TableId} {command : Command} (h : s.WellFormed)
    (hfresh : command.AddsTable → ∀ t ∈ s.tables, t.id ≠ fresh)
    (hs : s.apply fresh command = .ok s') : s'.WellFormed := by
  cases command with
  | addTable name =>
    obtain ⟨hne, hfree, hs'⟩ := addTable_effect hs
    exact of_tables hs' (h.add (hfresh trivial) (IsProperName.trim hne) hfree)
  | renameTable id name =>
    obtain ⟨hne, hfree, i, table, hi, renamed, rfl, hs'⟩ := renameTable_effect hs
    have hrenamed := h.rename hi (IsProperName.trim hne) hfree
    refine hrenamed.of_labels_eq ?_ ?_ fun t ht => ?_
    · rw [hs', List.map_map]
      rfl
    · rw [hs', List.map_map]
      rfl
    · rw [hs'] at ht
      obtain ⟨u, hu, rfl⟩ := List.mem_map.mp ht
      exact (hrenamed.tables u hu).map (fun _ => rfl) fun _ => rfl
  | deleteTable id =>
    obtain ⟨i, table, -, hs'⟩ := deleteTable_effect hs
    exact of_tables hs' ((h.eraseIdx i).mapReferences _)
  | moveTable id position =>
    obtain ⟨i, table, -, hs'⟩ := moveTable_effect hs
    exact of_tables hs' (h.modify (fun _ => rfl) (fun _ => rfl) fun t _ ht =>
      ht.of_names_eq rfl ht.oneKey)
  | setComment id comment =>
    obtain ⟨i, table, -, hs'⟩ := setComment_effect hs
    exact of_tables hs' (h.modify (fun _ => rfl) (fun _ => rfl) fun t _ ht =>
      ht.of_names_eq rfl ht.oneKey)
  | addColumn id column =>
    obtain ⟨i, table, hi, hne, added, rfl, hfree, -, hs'⟩ := addColumn_effect hs
    refine of_tables hs' (h.modify (fun _ => rfl) (fun _ => rfl) fun t hget ht => ?_)
    obtain rfl := Option.some.inj (hget.symm.trans (locate_spec hi).1)
    exact ht.append (IsProperName.trim hne) hfree
  | updateColumn id name replacement =>
    obtain ⟨i, table, hi, j, current, hj, hne, placed, rfl, hfree, -, hs'⟩ :=
      updateColumn_effect hs
    refine of_tables hs' (mapReferences ?_ _)
    refine h.modify (fun _ => rfl) (fun _ => rfl) fun t hget ht => ?_
    obtain rfl := Option.some.inj (hget.symm.trans (locate_spec hi).1)
    exact ht.put (Table.locate_spec hj).1 (IsProperName.trim hne) hfree
  | removeColumn id name =>
    obtain ⟨i, table, -, j, removed, -, hs'⟩ := removeColumn_effect hs
    refine of_tables hs' (mapReferences ?_ _)
    exact h.modify (fun _ => rfl) (fun _ => rfl) fun t _ ht => ht.eraseIdx j
  | setPrimaryKey id name =>
    obtain ⟨i, table, -, j, chosen, -, hs'⟩ := setPrimaryKey_effect hs
    exact of_tables hs' (h.modify (fun _ => rfl) (fun _ => rfl) fun t _ ht => ht.soleKeyAt j)
  | setForeignKey id name targetId targetName =>
    obtain ⟨i, table, -, j, column, -, _, _, _, _, _, _, rfl⟩ := setForeignKey_effect hs
    exact h.withReference i j _
  | connect id name targetId targetName =>
    obtain ⟨i, table, -, j, column, -, _, _, _, _, _, _, rfl⟩ := setForeignKey_effect hs
    exact h.withReference i j _
  | clearForeignKey id name =>
    obtain ⟨i, table, -, j, column, -, rfl⟩ := clearForeignKey_effect hs
    exact h.withReference i j _

end WellFormed

/-! ### Sequences of commands -/

/-- Each table that the commands add gets an identity which no table has at that time. -/
def DrawsFresh : Schema → List (TableId × Command) → Prop
  | _, [] => True
  | s, (fresh, command) :: rest =>
    (command.AddsTable → ∀ t ∈ s.tables, t.id ≠ fresh) ∧ DrawsFresh (s.step fresh command) rest

/-- What each accepted change keeps, a sequence of commands keeps. -/
theorem run_induction {P : Schema → Prop} {s : Schema} {commands : List (TableId × Command)}
    (hstep : ∀ s fresh command s', P s →
      (command.AddsTable → ∀ t ∈ s.tables, t.id ≠ fresh) → s.apply fresh command = .ok s' → P s')
    (hfresh : s.DrawsFresh commands) (hs : P s) : P (s.run commands) := by
  induction commands generalizing s with
  | nil => exact hs
  | cons entry rest ih =>
    obtain ⟨fresh, command⟩ := entry
    obtain ⟨hnew, hrest⟩ := hfresh
    refine ih hrest ?_
    show P (s.step fresh command)
    rw [step]
    cases happly : s.apply fresh command with
    | error e => exact hs
    | ok next => exact hstep s fresh command next hs hnew happly

section Fresh

variable {s s' : Schema} {fresh : TableId} {tables : List Table}

lemma ids_mapReferences (f : Reference → Option Reference) :
    (tables.map (Table.mapReferences f)).map (fun t => t.id) = tables.map fun t => t.id :=
  List.map_map.trans rfl

lemma ids_modify {i : ℕ} {f : Table → Table} (hf : ∀ t, (f t).id = t.id) :
    ((tables.modify i f).map fun t => t.id).Sublist
      ((tables.map fun t => t.id) ++ [fresh]) := by
  rw [map_modify_of_eq hf]
  exact List.sublist_append_left _ _

/-- A change leaves no other identities than those that were there and the generated one. -/
lemma ids_apply {command : Command} (h : s.apply fresh command = .ok s') :
    (s'.tables.map fun t => t.id).Sublist ((s.tables.map fun t => t.id) ++ [fresh]) := by
  cases command with
  | addTable name =>
    obtain ⟨-, -, hs'⟩ := addTable_effect h
    rw [hs', List.map_append]
    exact List.Sublist.refl _
  | renameTable id name =>
    obtain ⟨-, -, i, table, -, renamed, rfl, hs'⟩ := renameTable_effect h
    rw [hs', List.map_map]
    exact ids_modify fun _ => rfl
  | deleteTable id =>
    obtain ⟨i, table, -, hs'⟩ := deleteTable_effect h
    rw [hs', ids_mapReferences]
    exact ((List.eraseIdx_sublist s.tables i).map _).trans (List.sublist_append_left _ _)
  | moveTable id position =>
    obtain ⟨i, table, -, hs'⟩ := moveTable_effect h
    rw [hs']
    exact ids_modify fun _ => rfl
  | setComment id comment =>
    obtain ⟨i, table, -, hs'⟩ := setComment_effect h
    rw [hs']
    exact ids_modify fun _ => rfl
  | addColumn id column =>
    obtain ⟨i, table, -, -, added, -, -, -, hs'⟩ := addColumn_effect h
    rw [hs']
    exact ids_modify fun _ => rfl
  | updateColumn id name replacement =>
    obtain ⟨i, table, -, j, current, -, -, placed, -, -, -, hs'⟩ := updateColumn_effect h
    rw [hs', ids_mapReferences]
    exact ids_modify fun _ => rfl
  | removeColumn id name =>
    obtain ⟨i, table, -, j, removed, -, hs'⟩ := removeColumn_effect h
    rw [hs', ids_mapReferences]
    exact ids_modify fun _ => rfl
  | setPrimaryKey id name =>
    obtain ⟨i, table, -, j, chosen, -, hs'⟩ := setPrimaryKey_effect h
    rw [hs']
    exact ids_modify fun _ => rfl
  | setForeignKey id name targetId targetName =>
    obtain ⟨i, table, -, j, column, -, _, _, _, _, _, _, rfl⟩ := setForeignKey_effect h
    exact ids_modify fun _ => rfl
  | connect id name targetId targetName =>
    obtain ⟨i, table, -, j, column, -, _, _, _, _, _, _, rfl⟩ := setForeignKey_effect h
    exact ids_modify fun _ => rfl
  | clearForeignKey id name =>
    obtain ⟨i, table, -, j, column, -, rfl⟩ := clearForeignKey_effect h
    exact ids_modify fun _ => rfl

lemma ids_step (s : Schema) (fresh : TableId) (command : Command) :
    ((s.step fresh command).tables.map fun t => t.id).Sublist
      ((s.tables.map fun t => t.id) ++ [fresh]) := by
  rw [step]
  cases h : s.apply fresh command with
  | error e => exact List.sublist_append_left _ _
  | ok next => exact ids_apply h

/-- Identities that are all different are new whenever one is drawn. -/
lemma drawsFresh_of_nodup {commands : List (TableId × Command)}
    (h : ((s.tables.map fun t => t.id) ++ commands.map Prod.fst).Nodup) :
    s.DrawsFresh commands := by
  induction commands generalizing s with
  | nil => trivial
  | cons entry rest ih =>
    obtain ⟨fresh, command⟩ := entry
    rw [List.map_cons] at h
    refine ⟨fun _ t ht heq => ?_, ih ?_⟩
    · exact (List.nodup_append.mp h).2.2 t.id (List.mem_map_of_mem ht) fresh List.mem_cons_self heq
    · rw [List.append_cons] at h
      exact h.sublist ((ids_step s fresh command).append_right _)

end Fresh

/-- Whatever commands are run on the empty schema, the identities and names of its tables stay
distinct, all names stay proper, those of the columns of a table stay distinct, and a table keeps
one primary key at most. -/
theorem wellFormed_run_empty {commands : List (TableId × Command)}
    (hfresh : empty.DrawsFresh commands) : (empty.run commands).WellFormed :=
  run_induction (fun _ _ _ _ hs hnew happly => hs.apply hnew happly) hfresh wellFormed_empty

/-- A run with a refused command, a change of case in a name and a reference that follows it. -/
def sampleCommands : List (TableId × Command) :=
  [(⟨"1"⟩, .addTable " users "),
    (⟨"2"⟩, .addColumn ⟨"1"⟩ { name := "id", type := .int, primaryKey := true, id := ⟨"a"⟩ }),
    (⟨"3"⟩, .addTable "USERS"),
    (⟨"4"⟩, .addTable "orders"),
    (⟨"5"⟩, .addColumn ⟨"4"⟩ { name := "user_id", type := .int, id := ⟨"b"⟩ }),
    (⟨"6"⟩, .connect ⟨"4"⟩ "USER_ID" ⟨"1"⟩ "ID"),
    (⟨"7"⟩, .renameTable ⟨"1"⟩ "Users")]

/-- The run draws its identities anew and leaves a well-formed schema. -/
theorem wellFormed_sampleCommands :
    empty.DrawsFresh sampleCommands ∧ (empty.run sampleCommands).WellFormed :=
  have hfresh : empty.DrawsFresh sampleCommands := drawsFresh_of_nodup (by decide)
  ⟨hfresh, wellFormed_run_empty hfresh⟩

example : (empty.run sampleCommands).tables.map (fun t => (t.name, t.references.map Prod.snd))
    = [("Users", []), ("orders", [⟨"Users", "id"⟩])] := by
  decide

end Schema

end SchemaDesigner
