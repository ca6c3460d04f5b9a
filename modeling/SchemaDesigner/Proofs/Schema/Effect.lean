/-
What an accepted change does: for each kind of change, what was found, which checks were passed,
and the tables that result.

* `Schema.locate_spec`, `Table.locate_spec`: what addressing finds;
* `exists_locate?_of_find?`: what can be found can be addressed;
* `checkReference_eq_ok`: when a reference passes the gate;
* `Table.mem_references`: the references of a table are those of its columns;
* `Table.append`, `Table.put`: a table with another column at its end or in place of one;
* `Table.exists_append`, `Table.exists_put`: what stands in that place then;
* `Column.IsKeyBlind`: what a change of primary keys leaves as it is;
* `addTable_effect`, …, `clearForeignKey_effect`: the effect of each kind of change.

All that is proved about sequences of changes goes through these statements; nothing later looks
into a change again.
-/
import Mathlib.Tactic.Common
import SchemaDesigner.Schema.Command

namespace SchemaDesigner

/-! ### Steps that may fail -/

section Steps

variable {ε α β : Type}

/-- Two steps in a row succeed if each of them does. -/
lemma bind_eq_ok {x : Except ε α} {f : α → Except ε β} {b : β} :
    (x >>= f) = .ok b ↔ ∃ a, x = .ok a ∧ f a = .ok b := by
  cases x with
  | error e => simp [bind, Except.bind]
  | ok a => simp [bind, Except.bind]

/-- A step that succeeds hands its result on. -/
lemma ok_bind (a : α) (f : α → Except ε β) : ((Except.ok a : Except ε α) >>= f) = f a := rfl

/-- A result that is handed on is that result. -/
lemma pure_eq_ok {a b : α} : (pure a : Except ε α) = .ok b ↔ a = b := by
  simp [pure, Except.pure]

/-- A step that fails has no result. -/
lemma throw_eq_ok {e : ε} {a : α} : (throw e : Except ε α) = .ok a ↔ False := by
  simp [throw, throwThe, MonadExceptOf.throw]

/-- A refusal under a condition lets the rest go on if the condition fails. -/
lemma refuse_eq_ok {p : Prop} [Decidable p] {e : ε} {x y : Except ε α} {a : α} :
    (if p then (throw e >>= fun _ : PUnit => x) else y) = .ok a ↔ ¬p ∧ y = .ok a := by
  by_cases h : p
  · simp only [h, if_true, bind_eq_ok, throw_eq_ok, false_and, exists_false, not_true_eq_false]
  · simp only [h, if_false, not_false_eq_true, true_and]

/-- A check under a condition lets the rest go on if it succeeds whenever it is made. -/
lemma check_eq_ok {p : Prop} [Decidable p] {x : Except ε PUnit} {y : Except ε α} {a : α} :
    (if p then (x >>= fun _ => y) else y) = .ok a ↔ (p → x = .ok ()) ∧ y = .ok a := by
  by_cases h : p
  · simp only [h, if_true, bind_eq_ok, forall_const]
    exact ⟨fun ⟨_, hx, hy⟩ => ⟨hx, hy⟩, fun ⟨hx, hy⟩ => ⟨(), hx, hy⟩⟩
  · simp only [h, if_false, false_imp_iff, true_and]

end Steps

/-! ### Addressing -/

/-- What is found by identity stands in its place and has the identity. -/
lemma Schema.locate_spec {s : Schema} {id : TableId} {i : Nat} {t : Table}
    (h : s.locate id = .ok (i, t)) : s.tables[i]? = some t ∧ t.id = id := by
  rw [Schema.locate] at h
  split at h
  · rename_i found hf
    obtain rfl := Except.ok.inj h
    obtain ⟨hi, ht⟩ := locate?_eq_some hf
    exact ⟨hi, by simpa using ht⟩
  · cases h

/-- What is found by name stands in its place, and its name matches. -/
lemma Table.locate_spec {t : Table} {name : String} {j : Nat} {c : Column}
    (h : t.locate name = .ok (j, c)) :
    t.columns[j]? = some c ∧ namesMatch c.name name = true := by
  rw [Table.locate] at h
  split at h
  · rename_i found hf
    obtain rfl := Except.ok.inj h
    exact locate?_eq_some hf
  · cases h

/-- What is found has a place. -/
lemma exists_locate?_of_find? {α : Type} {p : α → Bool} {l : List α} {a : α}
    (h : l.find? p = some a) : ∃ i, locate? p l = some (i, a) := by
  rw [List.find?_eq_bind_findIdx?_getElem?, Option.bind_eq_some_iff] at h
  obtain ⟨i, hi, ha⟩ := h
  refine ⟨i, ?_⟩
  rw [locate?, hi, Option.bind_some, ha]
  rfl

/-- A table that exists is addressed. -/
lemma Schema.exists_locate_of_table? {s : Schema} {id : TableId} {t : Table}
    (h : s.table? id = some t) : ∃ i, s.locate id = .ok (i, t) := by
  obtain ⟨i, hi⟩ := exists_locate?_of_find? h
  exact ⟨i, by rw [Schema.locate, hi]⟩

/-- So is a column of a table. -/
lemma Table.exists_locate_of_column? {t : Table} {name : String} {c : Column}
    (h : t.column? name = some c) : ∃ j, t.locate name = .ok (j, c) := by
  obtain ⟨j, hj⟩ := exists_locate?_of_find? h
  exact ⟨j, by rw [Table.locate, hj]⟩

/-- The table of a name is one of the tables, and its name matches. -/
lemma tableNamed?_eq_some {tables : List Table} {name : String} {t : Table}
    (h : tableNamed? tables name = some t) : t ∈ tables ∧ namesMatch t.name name = true := by
  have hp := List.find?_some (p := fun t : Table => namesMatch t.name name) h
  exact ⟨List.mem_of_find?_eq_some h, hp⟩

lemma Table.column?_eq_some {t : Table} {name : String} {c : Column}
    (h : t.column? name = some c) : c ∈ t.columns ∧ namesMatch c.name name = true := by
  have hp := List.find?_some (p := fun c : Column => namesMatch c.name name) h
  exact ⟨List.mem_of_find?_eq_some h, hp⟩

/-- There is a column of a name exactly if the name of one matches. -/
lemma Table.isSome_column?_iff {t : Table} {name : String} :
    (t.column? name).isSome = true ↔ ∃ c ∈ t.columns, namesMatch c.name name = true :=
  List.find?_isSome

/-- The references of a table are those of its columns, each with its column. -/
lemma Table.mem_references {t : Table} {p : Column × Reference} :
    p ∈ t.references ↔ p.1 ∈ t.columns ∧ p.1.reference = some p.2 := by
  rw [references, List.mem_filterMap]
  constructor
  · rintro ⟨c, hc, hr⟩
    obtain ⟨r, hcr, rfl⟩ := Option.map_eq_some_iff.mp hr
    exact ⟨hc, hcr⟩
  · rintro ⟨hc, hr⟩
    exact ⟨p.1, hc, by rw [hr]; rfl⟩

/-! ### The gate for references -/

/-- A reference passes the gate if it leads to the primary key of a table, is not the column
itself, and has a compatible type. -/
lemma checkReference_eq_ok {tables : List Table} {owner : String} {source : ColumnDef}
    {r : Reference} {u : Unit} : checkReference tables owner source r = .ok u ↔
      ∃ t, tableNamed? tables r.table = some t ∧ ∃ c, t.column? r.column = some c
        ∧ (namesMatch t.name owner && namesMatch c.name source.name) = false
        ∧ c.primaryKey = true ∧ source.incompatibility? c.toColumnDef = none := by
  rw [checkReference]
  cases ht : tableNamed? tables r.table with
  | none => simp [throw_eq_ok]
  | some t =>
    cases hc : t.column? r.column with
    | none => simp [hc, throw_eq_ok]
    | some c =>
      simp only [hc, refuse_eq_ok, Option.some.injEq, exists_eq_left', Bool.not_eq_true,
        Bool.not_eq_false']
      cases source.incompatibility? c.toColumnDef with
      | none => simp [pure_eq_ok]
      | some e => simp [throw_eq_ok]

/-! ### The effect on tables -/

open Schema (withoutKeys)

/-- A table with a column at its end. A primary key there is the only one. -/
def Table.append (c : Column) (t : Table) : Table :=
  { t with
    columns :=
      if c.primaryKey then withoutKeys t.columns ++ [c.modify ColumnDef.asPrimaryKey]
      else t.columns ++ [c] }

/-- A table with a column in the place `j`. A new primary key there is the only one. -/
def Table.put (j : Nat) (isNewKey : Bool) (c : Column) (t : Table) : Table :=
  { t with
    columns :=
      if isNewKey then (withoutKeys t.columns).set j (c.modify ColumnDef.asPrimaryKey)
      else t.columns.set j c }

namespace Table

/-- What is added stands at the end with all that it says, but for what a primary key implies. -/
lemma exists_append (t : Table) (added : Column) :
    ∃ d, (t.append added).columns[t.columns.length]? = some d
      ∧ d.toColumnDef = { added.toColumnDef with nullable := d.nullable, unique := d.unique } := by
  cases hkey : added.primaryKey with
  | true =>
    refine ⟨added.modify ColumnDef.asPrimaryKey, by simp [append, hkey, withoutKeys], ?_⟩
    rw [Column.modify_toColumnDef, ColumnDef.asPrimaryKey, ← hkey]
  | false => exact ⟨added, by simp [append, hkey], rfl⟩

section Put

variable {t : Table} {j l : ℕ} {current c : Column} (isNewKey : Bool) (placed : Column)

/-- What is put in a place stands there with all that it says, but for what a primary key
implies. -/
lemma exists_put (hj : t.columns[j]? = some current)
    (hkey : isNewKey = true → placed.primaryKey = true) :
    ∃ d, (t.put j isNewKey placed).columns[j]? = some d
      ∧ d.toColumnDef = { placed.toColumnDef with nullable := d.nullable, unique := d.unique } := by
  have hlt := (List.getElem?_eq_some_iff.mp hj).1
  cases hnew : isNewKey with
  | true =>
    refine ⟨placed.modify ColumnDef.asPrimaryKey, by simp [put, withoutKeys, hlt], ?_⟩
    rw [Column.modify_toColumnDef, ColumnDef.asPrimaryKey, ← hkey hnew]
  | false => exact ⟨placed, by simp [put, hlt], rfl⟩

/-- The other columns stay, but may cease to be primary keys. -/
lemma exists_put_of_ne (hl : l ≠ j) (hc : t.columns[l]? = some c) :
    ∃ isKey, (t.put j isNewKey placed).columns[l]?
      = some (c.modify fun d => { d with primaryKey := isKey }) := by
  cases isNewKey with
  | true => exact ⟨false, by simp [put, withoutKeys, List.getElem?_set_ne hl.symm, hc]⟩
  | false => exact ⟨c.primaryKey, by simp [put, List.getElem?_set_ne hl.symm, hc, Column.modify]⟩

end Put

end Table

/-- References that are all kept leave the table as it is. -/
lemma Table.mapReferences_some (t : Table) : t.mapReferences some = t := by
  have h : (fun c : Column => c.modify (ColumnDef.mapReference some)) = fun c => c := by
    funext c
    simp [Column.modify, ColumnDef.mapReference]
  rw [Table.mapReferences, h, List.map_id']

/-! ### What primary keys leave as it is -/

/-- What `g` sees of a column does not depend on whether it is a primary key, nor on what a primary
key implies. -/
def Column.IsKeyBlind {β : Type} (g : Column → β) : Prop :=
  ∀ (c : Column) (isKey nullable unique : Bool), g (c.modify fun d =>
    { d with primaryKey := isKey, nullable := nullable, unique := unique }) = g c

namespace Column.IsKeyBlind

variable {β : Type} {g : Column → β} {t : Table}

lemma asPrimaryKey (hg : IsKeyBlind g) (c : Column) : g (c.modify ColumnDef.asPrimaryKey) = g c :=
  hg c true false true

lemma asSoleKey (hg : IsKeyBlind g) (isKey : Bool) (c : Column) :
    g (c.modify (ColumnDef.asSoleKey isKey)) = g c := by
  cases isKey with
  | true => exact hg c true false true
  | false => exact hg c false c.nullable c.unique

/-- What is blind for keys does not see that keys are taken away. -/
lemma map_withoutKeys (hg : IsKeyBlind g) (cs : List Column) :
    (withoutKeys cs).map g = cs.map g := by
  rw [withoutKeys, List.map_map]
  exact List.map_congr_left fun c _ => hg c false c.nullable c.unique

/-- It sees an added column as it was before. -/
lemma map_append (hg : IsKeyBlind g) (c : Column) :
    (t.append c).columns.map g = t.columns.map g ++ [g c] := by
  cases hkey : c.primaryKey with
  | true =>
    simp only [Table.append, hkey, if_true, List.map_append, hg.map_withoutKeys, List.map_cons,
      List.map_nil, hg.asPrimaryKey]
  | false =>
    simp only [Table.append, hkey, Bool.false_eq_true, if_false, List.map_append, List.map_cons,
      List.map_nil]

/-- So it does with a column that is put in a place. -/
lemma map_put (hg : IsKeyBlind g) (j : Nat) (isNewKey : Bool) (c : Column) :
    (t.put j isNewKey c).columns.map g = (t.columns.map g).set j (g c) := by
  cases isNewKey with
  | true => simp only [Table.put, if_true, List.map_set, hg.map_withoutKeys, hg.asPrimaryKey]
  | false => simp only [Table.put, Bool.false_eq_true, if_false, List.map_set]

/-- Nor does it see which column is chosen as the only key. -/
lemma map_soleKeyAt (hg : IsKeyBlind g) (j : Nat) (cs : List Column) :
    (Table.soleKeyAt j cs).map g = cs.map g := by
  refine List.ext_getElem? fun k => ?_
  simp only [Table.soleKeyAt, List.getElem?_map, List.getElem?_mapIdx, Option.map_map]
  congr 1
  funext c
  exact hg.asSoleKey (k == j) c

end Column.IsKeyBlind

/-! ### The effect on tables of a schema -/

namespace Schema

variable {s s' : Schema} {id : TableId}

/-- A name for a table is trimmed and not empty, and matches no name but the own one. -/
lemma checkTableName_eq_ok {name n : String} {own : Option TableId} :
    s.checkTableName name own = .ok n ↔ n = Text.trim name ∧ n ≠ ""
      ∧ ∀ t ∈ s.tables, namesMatch t.name n = true → some t.id = own := by
  simp only [checkTableName]
  split_ifs with hempty htaken
  · simp only [false_iff, not_and]
    rintro rfl hn
    exact absurd hempty hn
  · simp only [false_iff, not_and]
    rintro rfl - hfree
    obtain ⟨t, ht, hp⟩ := List.any_eq_true.mp htaken
    simp only [Bool.and_eq_true, bne_iff_ne, ne_eq] at hp
    exact hp.2 (hfree t ht hp.1)
  · simp only [Except.ok.injEq]
    constructor
    · rintro rfl
      refine ⟨rfl, hempty, fun t ht hm => ?_⟩
      by_contra hown
      exact htaken (List.any_eq_true.mpr ⟨t, ht, by simp [hm, hown]⟩)
    · exact fun h => h.1.symm

/-- A new table stands at the end, in the next place of the grid. -/
lemma addTable_effect {name : String} (h : s.addTable id name = .ok s') :
    Text.trim name ≠ "" ∧ (∀ t ∈ s.tables, namesMatch t.name (Text.trim name) = false)
      ∧ s'.tables = s.tables
        ++ [{ id := id, name := Text.trim name, position := .grid s.tables.length }] := by
  simp only [addTable, bind_eq_ok, pure_eq_ok, checkTableName_eq_ok] at h
  obtain ⟨n, ⟨rfl, hne, hfree⟩, rfl⟩ := h
  refine ⟨hne, fun t ht => ?_, rfl⟩
  rw [← Bool.not_eq_true]
  exact fun hm => Option.some_ne_none _ (hfree t ht hm)

/-- A table has its new name, and so have all references to it. -/
lemma renameTable_effect {name : String} (h : s.renameTable id name = .ok s') :
    Text.trim name ≠ ""
      ∧ (∀ t ∈ s.tables, namesMatch t.name (Text.trim name) = true → t.id = id)
      ∧ ∃ i table, s.locate id = .ok (i, table) ∧ ∃ renamed,
        renamed = (s.tables.modify i fun t => { t with name := Text.trim name })
          ∧ s'.tables = renamed.map fun t =>
            { t with
              columns := t.columns.map fun c => c.modify fun d => d.mapReference
                (renamedReference renamed table.name (Text.trim name) t.name d) } := by
  simp only [renameTable, bind_eq_ok, pure_eq_ok, checkTableName_eq_ok] at h
  obtain ⟨n, ⟨rfl, hne, hfree⟩, ⟨i, table⟩, hi, rfl⟩ := h
  exact ⟨hne, fun t ht hm => Option.some.inj (hfree t ht hm), i, table, hi, _, rfl, rfl⟩

/-- A table is gone, and so are all references with its name. -/
lemma deleteTable_effect (h : s.deleteTable id = .ok s') :
    ∃ i table, s.locate id = .ok (i, table)
      ∧ s'.tables = (s.tables.eraseIdx i).map
        (Table.mapReferences fun r => if namesMatch r.table table.name then none else some r) := by
  simp only [deleteTable, bind_eq_ok, pure_eq_ok] at h
  obtain ⟨⟨i, table⟩, hi, rfl⟩ := h
  exact ⟨i, table, hi, rfl⟩

lemma moveTable_effect {position : Position} (h : s.moveTable id position = .ok s') :
    ∃ i table, s.locate id = .ok (i, table)
      ∧ s'.tables = s.tables.modify i fun t => { t with position := position } := by
  simp only [moveTable, bind_eq_ok, pure_eq_ok] at h
  obtain ⟨⟨i, table⟩, hi, rfl⟩ := h
  exact ⟨i, table, hi, rfl⟩

lemma setComment_effect {comment : Option String} (h : s.setComment id comment = .ok s') :
    ∃ i table, s.locate id = .ok (i, table)
      ∧ s'.tables = s.tables.modify i fun t =>
        { t with comment := Text.nonBlank? comment } := by
  simp only [setComment, bind_eq_ok, pure_eq_ok] at h
  obtain ⟨⟨i, table⟩, hi, rfl⟩ := h
  exact ⟨i, table, hi, rfl⟩

/-- The name of a column is trimmed and not empty. -/
lemma trimmedColumn_eq_ok {c d : Column} :
    trimmedColumn c = .ok d ↔ Text.trim c.name ≠ ""
      ∧ d = { c with name := Text.trim c.name } := by
  simp only [trimmedColumn]
  split_ifs with h
  · simp [h]
  · simp [h, eq_comm]

/-- A new column has a name of its own, and its reference is checked before it is added. -/
lemma addColumn_effect {column : Column} (h : s.addColumn id column = .ok s') :
    ∃ i table, s.locate id = .ok (i, table) ∧ Text.trim column.name ≠ "" ∧ ∃ added : Column,
      added = { column with name := Text.trim column.name }
        ∧ (∀ c ∈ table.columns, namesMatch c.name added.name = false)
        ∧ checkOwnReference s.tables table.name added.toColumnDef = .ok ()
        ∧ s'.tables = s.tables.modify i (Table.append added) := by
  simp only [addColumn, bind_eq_ok, pure_eq_ok, refuse_eq_ok, trimmedColumn_eq_ok,
    Table.isSome_column?_iff] at h
  obtain ⟨⟨i, table⟩, hi, added, ⟨hne, hadded⟩, hfree, _, hcheck, rfl⟩ := h
  refine ⟨i, table, hi, hne, added, hadded, fun c hc => ?_, hcheck, rfl⟩
  rw [← Bool.not_eq_true]
  exact fun hm => hfree ⟨c, hc, hm⟩

/-- A column is put in the place of another one. Its reference is checked if it is a new one, and
references follow its name. -/
lemma updateColumn_effect {name : String} {replacement : Column}
    (h : s.updateColumn id name replacement = .ok s') :
    ∃ i table, s.locate id = .ok (i, table) ∧ ∃ j current, table.locate name = .ok (j, current)
      ∧ Text.trim replacement.name ≠ "" ∧ ∃ placed : Column,
        placed = { replacement with name := Text.trim replacement.name, id := current.id }
          ∧ (namesMatch current.name placed.name = false →
            ∀ c ∈ table.columns, namesMatch c.name placed.name = false)
          ∧ (bringsReference current.toColumnDef placed.toColumnDef = true →
            checkOwnReference s.tables table.name placed.toColumnDef = .ok ())
          ∧ s'.tables = (s.tables.modify i
              (Table.put j (placed.primaryKey && !current.primaryKey) placed)).map
            (Table.mapReferences fun r => some
              (if !namesMatch current.name placed.name && r.names table.name current.name then
                { r with column := placed.name } else r)) := by
  simp only [updateColumn, bind_eq_ok, refuse_eq_ok, trimmedColumn_eq_ok] at h
  obtain ⟨⟨i, table⟩, hi, ⟨j, current⟩, hj, trimmed, ⟨hne, rfl⟩, hfree, h⟩ := h
  obtain ⟨hcheck, h⟩ := check_eq_ok.mp h
  refine ⟨i, table, hi, j, current, hj, hne, _, rfl, fun hren c hc => ?_, hcheck, ?_⟩
  · rw [← Bool.not_eq_true]
    intro hm
    refine hfree ?_
    rw [Bool.and_eq_true, Table.isSome_column?_iff]
    exact ⟨by simpa using hren, c, hc, hm⟩
  · cases hren : namesMatch current.name (Text.trim replacement.name) with
    | true =>
      simp only [hren, Bool.not_true, Bool.false_eq_true, if_false, pure_eq_ok] at h
      rw [← h]
      exact ((List.map_congr_left fun t _ => t.mapReferences_some).trans (List.map_id' _)).symm
    | false =>
      simp only [hren, Bool.not_false, if_true, pure_eq_ok] at h
      rw [← h]
      rfl

/-- A column is gone, and so are all references to it. -/
lemma removeColumn_effect {name : String} (h : s.removeColumn id name = .ok s') :
    ∃ i table, s.locate id = .ok (i, table) ∧ ∃ j removed, table.locate name = .ok (j, removed)
      ∧ s'.tables = (s.tables.modify i fun t => { t with columns := t.columns.eraseIdx j }).map
        (Table.mapReferences fun r =>
          if r.names table.name removed.name then none else some r) := by
  simp only [removeColumn, bind_eq_ok, pure_eq_ok] at h
  obtain ⟨⟨i, table⟩, hi, ⟨j, removed⟩, hj, rfl⟩ := h
  exact ⟨i, table, hi, j, removed, hj, rfl⟩

lemma setPrimaryKey_effect {name : String} (h : s.setPrimaryKey id name = .ok s') :
    ∃ i table, s.locate id = .ok (i, table) ∧ ∃ j chosen, table.locate name = .ok (j, chosen)
      ∧ s'.tables = s.tables.modify i fun t =>
        { t with columns := Table.soleKeyAt j t.columns } := by
  simp only [setPrimaryKey, bind_eq_ok, pure_eq_ok] at h
  obtain ⟨⟨i, table⟩, hi, ⟨j, chosen⟩, hj, rfl⟩ := h
  exact ⟨i, table, hi, j, chosen, hj, rfl⟩

/-- A reference that passes the gate has the declared names of its table and column. -/
lemma setForeignKey_effect {name targetName : String} {targetId : TableId}
    (h : s.setForeignKey id name targetId targetName = .ok s') :
    ∃ i table, s.locate id = .ok (i, table) ∧ ∃ j column, table.locate name = .ok (j, column)
      ∧ ∃ k target, s.locate targetId = .ok (k, target)
        ∧ ∃ targetColumn, target.column? targetName = some targetColumn
          ∧ checkReference s.tables table.name column.toColumnDef
            ⟨target.name, targetColumn.name⟩ = .ok ()
          ∧ s' = s.withReference i j (some ⟨target.name, targetColumn.name⟩) := by
  simp only [setForeignKey, bind_eq_ok] at h
  obtain ⟨⟨i, table⟩, hi, ⟨j, column⟩, hj, ⟨k, target⟩, hk, h⟩ := h
  cases hc : target.column? targetName with
  | none => simp [hc, throw_eq_ok] at h
  | some targetColumn =>
    simp only [hc, bind_eq_ok, pure_eq_ok] at h
    obtain ⟨_, hcheck, rfl⟩ := h
    exact ⟨i, table, hi, j, column, hj, k, target, hk, targetColumn, hc, hcheck, rfl⟩

lemma clearForeignKey_effect {name : String} (h : s.clearForeignKey id name = .ok s') :
    ∃ i table, s.locate id = .ok (i, table) ∧ ∃ j column, table.locate name = .ok (j, column)
      ∧ s' = s.withReference i j none := by
  simp only [clearForeignKey, bind_eq_ok, pure_eq_ok] at h
  obtain ⟨⟨i, table⟩, hi, ⟨j, column⟩, hj, rfl⟩ := h
  exact ⟨i, table, hi, j, column, hj, rfl⟩

end Schema

end SchemaDesigner
