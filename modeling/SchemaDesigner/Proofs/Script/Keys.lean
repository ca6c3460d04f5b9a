/-
What every script gives: tables of distinct names with columns of distinct names, one primary key
at most, which is neither null nor repeated, and places on the grid.

* `ColumnDef.HasStrictKey`: a column that is a primary key is neither null nor repeated;
* `hasStrictKey_of_readColumn?`: a column has this shape whatever its options are;
* `forall_mem_firstKeyOnly`, `forall_mem_applyConstraint`: what choosing among several inline keys
  and each constraint of the table keep;
* `forall_mem_columns_of_tableOf?`: what the columns of a table have from their own definitions;
* `hasStrictKey_of_mem_parse`: the columns of a script have the shape in the end;
* `positions_ofDefs`: the tables of a script lie on the grid in their order;
* `wellFormed_ofDefs_parse`: all of it, for the tables of any script.
-/
import SchemaDesigner.Proofs.Script.Import

namespace SchemaDesigner

/-- If the column is a primary key, it is neither null nor repeated. -/
def ColumnDef.HasStrictKey (c : ColumnDef) : Prop :=
  c.primaryKey = true → c.nullable = false ∧ c.unique = true

namespace ColumnDef.HasStrictKey

variable {c : ColumnDef}

lemma asPrimaryKey (c : ColumnDef) : c.asPrimaryKey.HasStrictKey :=
  fun _ => ⟨rfl, rfl⟩

lemma asSoleKey (isKey : Bool) (c : ColumnDef) : (c.asSoleKey isKey).HasStrictKey := by
  cases isKey with
  | true => exact asPrimaryKey c
  | false => exact fun hkey => absurd hkey Bool.false_ne_true

end ColumnDef.HasStrictKey

namespace Script

/-! ### Columns -/

/-- No option takes back what a primary key implies. -/
lemma hasStrictKey_apply {c : ColumnDef} (h : c.HasStrictKey) (o : ColumnOption) :
    (o.apply c).HasStrictKey := by
  cases o with
  | primaryKey => exact .asPrimaryKey c
  | notNull => exact fun hkey => ⟨rfl, (h hkey).2⟩
  | unique => exact fun hkey => ⟨(h hkey).1, rfl⟩
  | default value => exact h
  | autoIncrement => exact h
  | references r => exact h

lemma hasStrictKey_of_readColumn? {ts : List Token} {c : ColumnDef}
    (h : readColumn? ts = some c) : c.HasStrictKey := by
  rw [readColumn?.eq_def] at h
  split at h
  · obtain rfl := Option.some.inj h
    exact List.foldlRecOn _ _ (fun hkey => absurd hkey Bool.false_ne_true) fun c hc o _ =>
      hasStrictKey_apply hc o
  · cases h

/-- A column among the elements of some parts has been read from one of these, behind the name of a
constraint if it begins with one. -/
lemma exists_readColumn?_of_mem_columnsOf {parts : List (List Token)} {c : ColumnDef}
    (h : c ∈ columnsOf (parts.filterMap Element.ofTokens?)) :
    ∃ p ∈ parts, readColumn? (dropConstraintName p) = some c := by
  obtain ⟨e, he, hc⟩ := List.mem_filterMap.mp (mem_of_mem_keepFirst c h)
  obtain ⟨p, hp, hread⟩ := List.mem_filterMap.mp he
  cases e with
  | constraint k => cases hc
  | column d =>
    obtain rfl := Option.some.inj hc
    refine ⟨p, hp, ?_⟩
    rw [Element.ofTokens?] at hread
    split at hread
    · rename_i hdrop
      obtain ⟨c, hread, hcd⟩ := Option.map_eq_some_iff.mp hread
      rw [hdrop, hread, Element.column.inj hcd]
    · obtain ⟨k, -, hk⟩ := Option.map_eq_some_iff.mp hread
      cases hk

/-! ### Keys among columns -/

section Columns

variable {P : ColumnDef → Prop} {cs : List ColumnDef}

/-- Of several inline keys only the first one stays a key. -/
lemma forall_mem_firstKeyOnly
    (hkey : ∀ c b, c.primaryKey = true → P c → P { c with primaryKey := b })
    (h : ∀ c ∈ cs, P c) (seen : Bool) : ∀ c ∈ firstKeyOnly seen cs, P c := by
  induction cs generalizing seen with
  | nil => exact fun c hc => absurd hc List.not_mem_nil
  | cons c cs ih =>
    obtain ⟨hc, hcs⟩ := List.forall_mem_cons.mp h
    rw [firstKeyOnly]
    split_ifs with hseen
    · exact List.forall_mem_cons.mpr ⟨hkey c _ hseen hc, ih hcs true⟩
    · exact List.forall_mem_cons.mpr ⟨hc, ih hcs seen⟩

lemma forall_mem_modifyNamed {name : String} {f : ColumnDef → ColumnDef}
    (hf : ∀ c, P c → P (f c)) (h : ∀ c ∈ cs, P c) : ∀ c ∈ modifyNamed name f cs, P c := by
  rw [modifyNamed]
  split
  · exact forall_mem_modify h fun c hc => hf c (h c (List.mem_of_getElem? hc))
  · exact h

/-- A constraint chooses the only key, forbids repeated values or gives a reference. -/
lemma forall_mem_applyConstraint {k : Constraint} (hsole : ∀ c b, P c → P (c.asSoleKey b))
    (hunique : ∀ c, P c → P { c with unique := true })
    (href : ∀ name r, k = .foreignKey name r → ∀ c, P c → P { c with reference := some r })
    (h : ∀ c ∈ cs, P c) : ∀ c ∈ applyConstraint cs k, P c := by
  cases k with
  | primaryKey name =>
    rw [applyConstraint]
    split
    · intro c hc
      obtain ⟨j, hj, rfl⟩ := List.mem_mapIdx.mp hc
      exact hsole _ _ (h _ (List.getElem_mem hj))
    · exact h
  | unique name => exact forall_mem_modifyNamed hunique h
  | foreignKey name r => exact forall_mem_modifyNamed (href name r rfl) h

/-- What holds of the columns of some elements, and what constraints keep, holds of the columns of
the table. -/
lemma forall_mem_columns_of_tableOf? {name : String} {es : List Element} {t : TableDef}
    (ht : tableOf? name es = some t) (h : ∀ c ∈ columnsOf es, P c)
    (hkey : ∀ c b, c.primaryKey = true → P c → P { c with primaryKey := b })
    (hsole : ∀ c b, P c → P (c.asSoleKey b)) (hunique : ∀ c, P c → P { c with unique := true })
    (href : ∀ name r, .foreignKey name r ∈ constraintsOf es →
      ∀ c, P c → P { c with reference := some r }) : ∀ c ∈ t.columns, P c := by
  have hall : ∀ c ∈ (constraintsOf es).foldl applyConstraint (firstKeyOnly false (columnsOf es)),
      P c :=
    List.foldlRecOn (motive := fun cs : List ColumnDef => ∀ c ∈ cs, P c) _ _
      (forall_mem_firstKeyOnly hkey h false) fun cs hcs k hk =>
        forall_mem_applyConstraint hsole hunique (fun name r hr => href name r (hr ▸ hk)) hcs
  rw [tableOf?] at ht
  split at ht
  · cases ht
  · obtain rfl := Option.some.inj ht
    exact hall

end Columns

/-- In the tables of a script a primary key is neither null nor repeated. -/
lemma hasStrictKey_of_mem_parse {s : String} {t : TableDef} (h : t ∈ parse s) :
    ∀ c ∈ t.columns, c.HasStrictKey := by
  refine forall_mem_definitions (P := fun t => ∀ c ∈ t.columns, c.HasStrictKey) ?_ t
    (mem_of_mem_keepFirst t h)
  intro name body parts t _ _ ht
  refine forall_mem_columns_of_tableOf? ht (fun c hc => ?_) (fun c b hb hc _ => hc hb)
    (fun c b _ => .asSoleKey b c) (fun c hc hkey => ⟨(hc hkey).1, rfl⟩) fun _ _ _ c hc => hc
  obtain ⟨p, -, hread⟩ := exists_readColumn?_of_mem_columnsOf hc
  exact hasStrictKey_of_readColumn? hread

end Script

/-! ### Places -/

/-- The tables with new identities lie on the grid, one after the other. -/
lemma positions_ofDefs (ds : List TableDef) (ids : IdSupply) :
    (Table.ofDefs ds ids).1.map (fun t => t.position)
      = (List.range ds.length).map Position.grid := by
  have hplaces : (ds.zipIdx.mapM (fun p => Table.ofDef (.grid p.2) p.1) ids).1.map
      (fun t => t.position) = ds.zipIdx.map (Position.grid ∘ Prod.snd) :=
    map_mapM (f := fun p : TableDef × ℕ => Table.ofDef (.grid p.2) p.1) (fun _ _ => rfl) _ _
  rw [← List.map_map, List.zipIdx_map_snd, ← List.range_eq_range'] at hplaces
  exact hplaces

namespace Script

/-- Whatever a script holds, no two of its tables have matching names. Each has columns, of which no
two have matching names and one at most is the primary key, which is neither null nor repeated. The
tables lie on the grid in their order. -/
theorem wellFormed_ofDefs_parse (s : String) (ids : IdSupply) :
    DistinctNames ((Table.ofDefs (parse s) ids).1.map fun t => t.name)
      ∧ (∀ t ∈ (Table.ofDefs (parse s) ids).1, t.columns ≠ []
        ∧ DistinctNames (t.columns.map fun c => c.name)
        ∧ t.columns.countP (fun c => c.primaryKey) ≤ 1
        ∧ ∀ c ∈ t.columns, c.primaryKey = true → c.nullable = false ∧ c.unique = true)
      ∧ ∀ (i : ℕ) (t : Table), (Table.ofDefs (parse s) ids).1[i]? = some t →
        t.position = .grid i := by
  refine ⟨?_, fun t ht => ?_, fun i t hi => ?_⟩
  · have hdistinct := distinct_parse s
    rw [← (ofDefs_spec (parse s) ids).1, List.map_map] at hdistinct
    exact hdistinct
  · have hmem := toDef_mem_parse ht
    obtain ⟨hne, hnames, hkey⟩ := wellFormed_of_mem_parse hmem
    refine ⟨fun hnil => hne ?_, ?_, ?_, fun c hc => ?_⟩
    · rw [Table.toDef, hnil, List.map_nil]
    · rwa [Table.toDef, List.map_map] at hnames
    · rwa [Table.toDef, List.countP_map] at hkey
    · exact hasStrictKey_of_mem_parse hmem _ (List.mem_map_of_mem hc)
  · have hget : ((Table.ofDefs (parse s) ids).1.map fun t => t.position)[i]? = some t.position := by
      rw [List.getElem?_map, hi]
      rfl
    rw [positions_ofDefs, List.getElem?_map, Option.map_eq_some_iff] at hget
    obtain ⟨j, hj, hposition⟩ := hget
    rw [← hposition, (List.getElem?_eq_some_iff.mp hj).2.symm, List.getElem_range]

/-- A script with a table and a column that come twice, and three primary keys for one table. -/
def crowdedScript : String :=
  "CREATE TABLE a (id INT PRIMARY KEY, ID TEXT, k INT PRIMARY KEY, PRIMARY KEY (k));
   CREATE TABLE A (x INT);
   CREATE TABLE b (y INT);"

/-- Of the three keys the last one counts, and the second table has the second place. -/
theorem wellFormed_crowdedScript :
    (Table.ofDefs (parse crowdedScript) ⟨0⟩).1.map
        (fun t => (t.name, t.columns.map fun c => (c.name, c.primaryKey)))
      = [("a", [("id", false), ("k", true)]), ("b", [("y", false)])]
    ∧ (∀ t ∈ (Table.ofDefs (parse crowdedScript) ⟨0⟩).1, t.columns ≠ [])
    ∧ ∀ t, (Table.ofDefs (parse crowdedScript) ⟨0⟩).1[1]? = some t → t.position = .grid 1 := by
  obtain ⟨-, htables, hplaces⟩ := wellFormed_ofDefs_parse crowdedScript ⟨0⟩
  exact ⟨by decide +kernel, fun t ht => (htables t ht).1, hplaces 1⟩

end Script

end SchemaDesigner
