/-
Schemas whose identities and names tell tables and columns apart, and whose references may dangle.

* `Schema.HasDistinctNames`: identities and names tell tables apart, and names the columns of each;
* `Schema.HasDistinctNames.table?_eq_some_iff`, `Schema.HasDistinctNames.table_place`,
  `Schema.HasDistinctNames.column_place`: identities tell tables, and names tell places;
* `Schema.HasDistinctNames.eq_of_names`: a reference names one column at most;
* `Schema.HasDistinctNames.put`, `Schema.HasDistinctNames.mapAllReferences`: what keeps names
  distinct.
-/
import SchemaDesigner.Proofs.Schema.References

namespace SchemaDesigner

/-- The identities of the tables, the names of the tables and the names of the columns of each table
are distinct. References may dangle. -/
structure Schema.HasDistinctNames (s : Schema) : Prop where
  ids : (s.tables.map fun t => t.id).Nodup
  tables : DistinctNames (s.tables.map fun t => t.name)
  columns : ∀ t ∈ s.tables, DistinctNames (t.columns.map fun c => c.name)

lemma Schema.WellFormed.hasDistinctNames {s : Schema} (h : s.WellFormed) : s.HasDistinctNames :=
  ⟨h.ids, h.distinct, fun t ht => (h.tables t ht).distinct⟩

namespace Schema.HasDistinctNames

variable {s s' : Schema} {tables : List Table} {i k : ℕ} {t u : Table}

/-! ### Identities and names tell tables and columns -/

/-- Names tell the places of tables apart. -/
lemma table_place (h : s.HasDistinctNames) (hi : s.tables[i]? = some t) (hk : s.tables[k]? = some u)
    (hname : namesMatch t.name u.name = true) : i = k := by
  refine h.tables.eq_of_match ?_ ?_ hname
  · rw [List.getElem?_map, hi, Option.map_some]
  · rw [List.getElem?_map, hk, Option.map_some]

/-- Identities tell tables apart. -/
lemma table?_eq_some_iff (h : s.HasDistinctNames) {id : TableId} :
    s.table? id = some t ↔ t ∈ s.tables ∧ t.id = id := by
  rw [table?, find?_eq_some_iff_of_unique, beq_iff_eq]
  exact fun u hu v hv hid hid' => List.inj_on_of_nodup_map h.ids hu hv
    ((beq_iff_eq.mp hid).trans (beq_iff_eq.mp hid').symm)

/-- The place of the table that a reference names is where the name is found. -/
lemma place_eq_iff (hs : s.HasDistinctNames) {name : String} (hi : s.tables[i]? = some t)
    (hk : s.tables[k]? = some u) (hname : namesMatch u.name name = true) :
    k = i ↔ namesMatch name t.name = true := by
  constructor
  · rintro rfl
    obtain rfl := Option.some.inj (hi.symm.trans hk)
    exact namesMatch_symm hname
  · exact fun hmatch => hs.table_place hk hi (namesMatch_trans hname hmatch)

/-- Names tell the places of the columns of a table apart. -/
lemma column_place (h : s.HasDistinctNames) {j l : ℕ} {t : Table} {c d : Column}
    (ht : t ∈ s.tables) (hj : t.columns[j]? = some c) (hl : t.columns[l]? = some d)
    (hname : namesMatch c.name d.name = true) : j = l := by
  refine (h.columns t ht).eq_of_match ?_ ?_ hname
  · rw [List.getElem?_map, hj, Option.map_some]
  · rw [List.getElem?_map, hl, Option.map_some]

/-- A reference names one column at most. -/
lemma eq_of_names (hs : s.HasDistinctNames) {c d : Column} {r : Reference} (ht : t ∈ s.tables)
    (hc : c ∈ t.columns) (hu : u ∈ s.tables) (hd : d ∈ u.columns)
    (hr : r.names t.name c.name = true) (hr' : r.names u.name d.name = true) : t = u ∧ c = d := by
  obtain ⟨htname, hcname⟩ := Reference.names_iff.mp hr
  obtain ⟨huname, hdname⟩ := Reference.names_iff.mp hr'
  obtain rfl := hs.tables.eq_of_mem ht hu (namesMatch_trans htname (namesMatch_symm huname))
  exact ⟨rfl, (hs.columns t ht).eq_of_mem hc hd (namesMatch_trans hcname (namesMatch_symm hdname))⟩

/-! ### Names through a change -/

lemma of_tables (hs' : s'.tables = tables) (h : HasDistinctNames ⟨tables⟩) :
    s'.HasDistinctNames := by
  subst hs'
  exact h

lemma of_labels_eq (h : s.HasDistinctNames)
    (hids : tables.map (fun t => t.id) = s.tables.map fun t => t.id)
    (hnames : tables.map (fun t => t.name) = s.tables.map fun t => t.name)
    (hcolumns : ∀ t ∈ tables, DistinctNames (t.columns.map fun c => c.name)) :
    HasDistinctNames ⟨tables⟩ :=
  ⟨hids ▸ h.ids, hnames ▸ h.tables, hcolumns⟩

/-- A column may take the place of another one if its name is free where it differs. -/
lemma put (h : s.HasDistinctNames) {i j : ℕ} {t : Table} {current placed : Column}
    (hi : s.tables[i]? = some t) (hj : t.columns[j]? = some current)
    (hfree : namesMatch current.name placed.name = false →
      ∀ c ∈ t.columns, namesMatch c.name placed.name = false) (isNewKey : Bool) :
    HasDistinctNames ⟨s.tables.modify i (Table.put j isNewKey placed)⟩ := by
  refine h.of_labels_eq (map_modify_of_eq fun _ => rfl) (map_modify_of_eq fun _ => rfl)
    (forall_mem_modify h.columns fun u hu => ?_)
  obtain rfl := Option.some.inj (hi.symm.trans hu)
  exact Table.WellFormed.distinct_put (h.columns t (List.mem_of_getElem? hi)) hj hfree isNewKey

/-- References do not matter for names. -/
lemma mapAllReferences (h : HasDistinctNames ⟨tables⟩)
    (g : String → ColumnDef → Reference → Option Reference) :
    HasDistinctNames ⟨SchemaDesigner.mapAllReferences g tables⟩ := by
  refine h.of_labels_eq List.map_map List.map_map (List.forall_mem_map.mpr fun t ht => ?_)
  rw [List.map_map]
  exact h.columns t ht

end Schema.HasDistinctNames

end SchemaDesigner
