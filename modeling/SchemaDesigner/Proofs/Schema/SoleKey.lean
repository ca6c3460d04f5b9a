/-
The primary key that a change makes: it is the only one of its table, whatever keys were there
before.

* `Command.newKey?`: the column that a command adds or addresses, by its place and its identity;
* `Column.LosesKey`: what is kept of a column that is no primary key any more;
* `Table.MakesSoleKey`: a table in which one column has become the only primary key;
* `Table.MakesSoleKey.append`, `Table.MakesSoleKey.put`, `Table.MakesSoleKey.soleKeyAt`: the three
  ways to make a key;
* `Command.LeavesSoleKey`: the column that a command adds or addresses is the only primary key;
* `Schema.leavesSoleKey_apply`: each accepted command that makes a key makes it the only one of its
  table.
-/
import SchemaDesigner.Proofs.Schema.Frame

namespace SchemaDesigner

open Schema (withoutKeys)

/-- The place and the identity of the column that the command adds or, if it adds none, addresses.
A new column stands at the end of its table. -/
def Command.newKey? (s : Schema) (command : Command) : Option (ℕ × ColumnId) :=
  match command with
  | addColumn _ column => (command.tableAt? s).map fun p => (p.2.columns.length, column.id)
  | _ => (command.columnAt? s).map fun q => (q.1, q.2.id)

/-- The column is no primary key afterwards, and of the rest at most its reference has changed. -/
def Column.LosesKey (c c' : Column) : Prop :=
  ∃ r, c' = c.modify fun d => { d with primaryKey := false, reference := r }

namespace Column.LosesKey

variable {c c' : Column}

lemma primaryKey (h : c.LosesKey c') : c'.primaryKey = false := by
  obtain ⟨r, rfl⟩ := h
  rfl

lemma mapReference (h : c.LosesKey c') (f : Reference → Option Reference) :
    c.LosesKey (c'.modify (ColumnDef.mapReference f)) := by
  obtain ⟨r, rfl⟩ := h
  exact ⟨r.bind f, rfl⟩

end Column.LosesKey

/-- In the table `t'`, which has come from `t`, the column `key` at the place `j` is the only
primary key, neither null nor repeated. The other columns are those of `t`, without their keys. -/
structure Table.MakesSoleKey (t t' : Table) (j : ℕ) (key : Column) : Prop where
  place : t'.columns[j]? = some key
  sole : ∀ k c, t'.columns[k]? = some c → (c.primaryKey = true ↔ k = j)
  strict : key.nullable = false ∧ key.unique = true
  others : ∀ k, k ≠ j → Option.Rel Column.LosesKey t.columns[k]? t'.columns[k]?

namespace Table.MakesSoleKey

variable {t t' : Table} {j : ℕ} {key : Column}

/-- Where the other columns have lost their keys, the one key is the only one. -/
lemma of_others {d : ColumnDef} (hplace : t'.columns[j]? = some key)
    (hkey : key.toColumnDef = d.asPrimaryKey)
    (hothers : ∀ k, k ≠ j → Option.Rel Column.LosesKey t.columns[k]? t'.columns[k]?) :
    t.MakesSoleKey t' j key := by
  refine ⟨hplace, fun k c hc => ?_, by rw [hkey]; exact ⟨rfl, rfl⟩, hothers⟩
  by_cases hk : k = j
  · subst hk
    obtain rfl := Option.some.inj (hplace.symm.trans hc)
    exact iff_of_true (by rw [hkey]; rfl) rfl
  · have hrel := hothers k hk
    rw [hc] at hrel
    generalize t.columns[k]? = o at hrel
    cases hrel with
    | some hloses => simp [hloses.primaryKey, hk]

/-- A column loses its key where all do. -/
lemma losesKey_withoutKeys (cs : List Column) (k : ℕ) :
    Option.Rel Column.LosesKey cs[k]? (withoutKeys cs)[k]? := by
  rw [withoutKeys, List.getElem?_map]
  cases cs[k]? with
  | none => exact .none
  | some c => exact .some ⟨c.reference, rfl⟩

/-- A primary key that is added at the end is the only one. -/
lemma append (t : Table) {c : Column} (hc : c.primaryKey = true) :
    t.MakesSoleKey (t.append c) t.columns.length (c.modify ColumnDef.asPrimaryKey) := by
  have hcolumns : (t.append c).columns
      = withoutKeys t.columns ++ [c.modify ColumnDef.asPrimaryKey] := if_pos hc
  have hlength : (withoutKeys t.columns).length = t.columns.length := List.length_map _
  refine of_others (d := c.toColumnDef) ?_ rfl fun k hk => ?_
  · rw [hcolumns, ← hlength, List.getElem?_concat_length]
  · rcases Nat.lt_or_gt_of_ne hk with hlt | hgt
    · rw [hcolumns, List.getElem?_append_left (hlength ▸ hlt)]
      exact losesKey_withoutKeys t.columns k
    · have hend : (t.append c).columns[k]? = none := by
        rw [hcolumns, List.getElem?_eq_none_iff, List.length_append, hlength]
        exact hgt
      rw [hend, List.getElem?_eq_none hgt.le]
      exact .none

/-- A primary key that is put in the place of a column is the only one. -/
lemma put {current : Column} (hj : t.columns[j]? = some current) (c : Column) :
    t.MakesSoleKey (t.put j true c) j (c.modify ColumnDef.asPrimaryKey) := by
  have hlt : j < (withoutKeys t.columns).length :=
    (List.length_map _).symm ▸ (List.getElem?_eq_some_iff.mp hj).1
  refine of_others (d := c.toColumnDef) (List.getElem?_set_self hlt) rfl fun k hk => ?_
  have hcolumn : (t.put j true c).columns[k]? = (withoutKeys t.columns)[k]? :=
    List.getElem?_set_ne hk.symm
  rw [hcolumn]
  exact losesKey_withoutKeys t.columns k

/-- A column that is chosen as the primary key is the only one. -/
lemma soleKeyAt {current : Column} (hj : t.columns[j]? = some current) :
    t.MakesSoleKey { t with columns := Table.soleKeyAt j t.columns } j
      (current.modify ColumnDef.asPrimaryKey) := by
  refine of_others (d := current.toColumnDef) ?_ rfl fun k hk => ?_
  · rw [Table.soleKeyAt, List.getElem?_mapIdx, hj, beq_self_eq_true]
    rfl
  · rw [Table.soleKeyAt, List.getElem?_mapIdx, beq_false_of_ne hk]
    cases t.columns[k]? with
    | none => exact .none
    | some c => exact .some ⟨c.reference, rfl⟩

/-- References may be rewritten afterwards. -/
lemma mapReferences (h : t.MakesSoleKey t' j key) (f : Reference → Option Reference) :
    t.MakesSoleKey (t'.mapReferences f) j (key.modify (ColumnDef.mapReference f)) := by
  have hget : ∀ k, (t'.mapReferences f).columns[k]?
      = t'.columns[k]?.map (Column.modify (ColumnDef.mapReference f)) :=
    fun _ => List.getElem?_map
  refine ⟨by rw [hget, h.place]; rfl, fun k c hc => ?_, h.strict, fun k hk => ?_⟩
  · rw [hget, Option.map_eq_some_iff] at hc
    obtain ⟨d, hd, rfl⟩ := hc
    exact h.sole k d hd
  · have hrel := h.others k hk
    rw [hget]
    generalize t.columns[k]? = o, t'.columns[k]? = o' at hrel
    cases hrel with
    | none => exact .none
    | some hloses => exact .some (hloses.mapReference f)

end Table.MakesSoleKey

/-- The table that the command addresses is there in both schemas, and in the second one the column
that the command adds or addresses is its only primary key. -/
def Command.LeavesSoleKey (s s' : Schema) (command : Command) : Prop :=
  ∃ i t t' j key, command.tableAt? s = some (i, t) ∧ command.tableAt? s' = some (i, t')
    ∧ command.newKey? s = some (j, key.id) ∧ t.MakesSoleKey t' j key

namespace Schema

variable {s s' : Schema} {fresh id : TableId}

open Command

/-- The first element with a property stays in its place if all elements keep what tells it. -/
lemma locate?_eq_some_of_map {α β : Type} {g : α → β} {p : β → Bool} {l l' : List α} {i : ℕ}
    {a a' : α} (h : locate? (fun a => p (g a)) l = some (i, a)) (hmap : l'.map g = l.map g)
    (ha' : l'[i]? = some a') : locate? (fun a => p (g a)) l' = some (i, a') := by
  have hplace : ∀ l : List α, l.findIdx? (fun a => p (g a)) = (l.map g).findIdx? p :=
    fun l => List.findIdx?_map.symm
  rw [locate?, Option.bind_eq_some_iff] at h ⊢
  obtain ⟨k, hk, hget⟩ := h
  obtain ⟨b, -, hb⟩ := Option.map_eq_some_iff.mp hget
  obtain rfl := (Prod.mk.inj hb).1
  exact ⟨k, by rw [hplace, hmap, ← hplace, hk], by rw [ha', Option.map_some]⟩

/-- A table is addressed as before if the tables keep their identities. -/
lemma locate_eq_ok_of_ids {i : ℕ} {t t' : Table} (h : s.locate id = .ok (i, t))
    (hids : s'.tables.map (fun t => t.id) = s.tables.map fun t => t.id)
    (ht' : s'.tables[i]? = some t') : s'.locate id = .ok (i, t') := by
  have hfound : locate? (fun t => t.id == id) s.tables = some (i, t) := by
    rw [locate] at h
    split at h
    · rename_i found hfound
      rw [hfound, Except.ok.inj h]
    · cases h
  rw [locate, locate?_eq_some_of_map (g := fun t : Table => t.id) (p := (· == id)) hfound hids ht']

/-- Where the tables keep their identities, what a command has made of the table that it addresses
is the table that it addresses afterwards. -/
lemma leavesSoleKey_of_makesSoleKey {command : Command} {i j : ℕ} {t t' : Table} {key : Column}
    (hids : s'.tables.map (fun t => t.id) = s.tables.map fun t => t.id)
    (hid : command.tableId? = some id) (hi : s.locate id = .ok (i, t))
    (ht' : s'.tables[i]? = some t') (hkey : command.newKey? s = some (j, key.id))
    (h : t.MakesSoleKey t' j key) : command.LeavesSoleKey s s' :=
  ⟨i, t, t', j, key, tableAt?_eq_some hid hi,
    tableAt?_eq_some hid (locate_eq_ok_of_ids hi hids ht'), hkey, h⟩

lemma leavesSoleKey_addColumn {column : Column}
    (hids : s'.tables.map (fun t => t.id) = s.tables.map fun t => t.id)
    (h : s.addColumn id column = .ok s') (hkey : column.primaryKey = true) :
    LeavesSoleKey s s' (.addColumn id column) := by
  obtain ⟨i, t, hi, -, added, hadded, -, -, hs'⟩ := addColumn_effect h
  have ht' : s'.tables[i]? = some (t.append added) := by
    rw [hs', List.getElem?_modify_eq, (locate_spec hi).1]
    rfl
  refine leavesSoleKey_of_makesSoleKey hids rfl hi ht' ?_ (.append t (hadded ▸ hkey))
  rw [hadded]
  exact congrArg (Option.map _) (tableAt?_eq_some rfl hi)

lemma leavesSoleKey_updateColumn {name : String} {replacement : Column}
    (hids : s'.tables.map (fun t => t.id) = s.tables.map fun t => t.id)
    (h : s.updateColumn id name replacement = .ok s')
    (hkey : MakesKey s (.updateColumn id name replacement)) :
    LeavesSoleKey s s' (.updateColumn id name replacement) := by
  obtain ⟨i, t, hi, j, current, hj, -, placed, hplaced, -, -, hs'⟩ := updateColumn_effect h
  obtain ⟨f, ht'⟩ : ∃ f, s'.tables[i]? = some (Table.mapReferences f
      (t.put j (placed.primaryKey && !current.primaryKey) placed)) := by
    rw [hs', List.getElem?_map, List.getElem?_modify_eq, (locate_spec hi).1]
    exact ⟨_, rfl⟩
  have hcolumn : columnAt? s (.updateColumn id name replacement) = some (j, current) :=
    columnAt?_eq_some (tableAt?_eq_some rfl hi) rfl hj
  obtain ⟨hnew, q, hq, hold⟩ := hkey
  obtain rfl := Option.some.inj (hcolumn.symm.trans hq)
  have hnewKey : (placed.primaryKey && !current.primaryKey) = true := by
    rw [hplaced]
    exact Bool.and_eq_true_iff.mpr ⟨hnew, by rw [hold]; rfl⟩
  rw [hnewKey] at ht'
  refine leavesSoleKey_of_makesSoleKey hids rfl hi ht' ?_
    (.mapReferences (.put (Table.locate_spec hj).1 _) f)
  rw [hplaced]
  exact congrArg (Option.map _) hcolumn

lemma leavesSoleKey_setPrimaryKey {name : String}
    (hids : s'.tables.map (fun t => t.id) = s.tables.map fun t => t.id)
    (h : s.setPrimaryKey id name = .ok s') : LeavesSoleKey s s' (.setPrimaryKey id name) := by
  obtain ⟨i, t, hi, j, chosen, hj, hs'⟩ := setPrimaryKey_effect h
  have ht' : s'.tables[i]? = some { t with columns := Table.soleKeyAt j t.columns } := by
    rw [hs', List.getElem?_modify_eq, (locate_spec hi).1]
    rfl
  refine leavesSoleKey_of_makesSoleKey hids rfl hi ht' ?_ (.soleKeyAt (Table.locate_spec hj).1)
  exact congrArg (Option.map _) (columnAt?_eq_some (tableAt?_eq_some rfl hi) rfl hj)

/-- Whatever primary keys the tables have: after an accepted command that makes a column a primary
key, this column, which is the one added or addressed, is the only primary key of its table and
neither null nor repeated. The other columns of the table keep all but their keys and references. -/
theorem leavesSoleKey_apply {command : Command} (h : s.apply fresh command = .ok s')
    (hkey : command.MakesKey s) : command.LeavesSoleKey s s' := by
  have hids := (frame_apply h).ids
  cases command with
  | addColumn id column =>
    exact leavesSoleKey_addColumn (hids.trans (List.append_nil _)) h hkey
  | updateColumn id name replacement =>
    exact leavesSoleKey_updateColumn (hids.trans (List.append_nil _)) h hkey
  | setPrimaryKey id name =>
    exact leavesSoleKey_setPrimaryKey (hids.trans (List.append_nil _)) h
  | _ => cases hkey

/-- Of the two keys of a table none is left when a third one is added. -/
theorem leavesSoleKey_crowdedSchema : ∃ s',
    crowdedSchema.apply ⟨"3"⟩ (.addColumn ⟨"1"⟩
        { name := "key", type := .int, primaryKey := true, id := ⟨"f"⟩ }) = .ok s'
      ∧ (s'.tables.map fun t => t.columns.map fun c => (c.name, c.primaryKey)).head?
        = some [("id", false), ("code", false), ("key", true)]
      ∧ (Command.addColumn ⟨"1"⟩
        { name := "key", type := .int, primaryKey := true, id := ⟨"f"⟩ }).LeavesSoleKey
          crowdedSchema s' :=
  ⟨_, rfl, by decide, @leavesSoleKey_apply _ _ ⟨"3"⟩ _ rfl rfl⟩

end Schema

end SchemaDesigner
