/-
References as commands set them: when a new one is live, and that all ways of setting one agree.

* `Reference.LeadsToKey`, `Schema.HasDistinctNames.not_stale_iff`: a reference is not stale just
  when it leads to a primary key;
* `Command.referrer?`: the column to which a command has given a reference;
* `Command.TakesOwnKey`: the column takes away the primary key that it is made to refer to;
* `Command.leadsToKey_iff_of_frame`: what becomes of the key that the gate has found;
* `Schema.newReference_live_iff`: a new reference is live unless the command takes its own key;
* `Schema.setForeignKey_eq_connect_eq_updateColumn`: the form, the canvas and the replacement of a
  column set references alike.

The gate is made before the other effects of a command, which may move the primary key of a table.
-/
import SchemaDesigner.Proofs.Schema.Revival

namespace SchemaDesigner

/-! ### References that lead to keys -/

/-- Some column that the reference names is a primary key. -/
def Reference.LeadsToKey (tables : List Table) (r : Reference) : Prop :=
  ∃ t ∈ tables, ∃ c ∈ t.columns, r.names t.name c.name = true ∧ c.primaryKey = true

instance (tables : List Table) (r : Reference) : Decidable (r.LeadsToKey tables) :=
  inferInstanceAs (Decidable (∃ t ∈ tables, ∃ c ∈ t.columns, _ ∧ _))

namespace Schema.HasDistinctNames

variable {s : Schema} {t : Table} {c : Column} {r : Reference}

/-- A reference that names a column leads to a key if this is one. -/
lemma leadsToKey_iff (hs : s.HasDistinctNames) (ht : t ∈ s.tables) (hc : c ∈ t.columns)
    (hr : r.names t.name c.name = true) : r.LeadsToKey s.tables ↔ c.primaryKey = true := by
  constructor
  · rintro ⟨u, hu, d, hd, hr', hkey⟩
    obtain ⟨-, rfl⟩ := hs.eq_of_names ht hc hu hd hr hr'
    exact hkey
  · exact fun hkey => ⟨t, ht, c, hc, hr, hkey⟩

lemma staleReason?_eq_none_iff (hs : s.HasDistinctNames) :
    r.staleReason? s.tables = none ↔ r.LeadsToKey s.tables := by
  rw [Reference.staleReason?]
  constructor
  · intro h
    split at h
    · cases h
    · rename_i t ht
      split at h
      · cases h
      · rename_i c hc
        split_ifs at h with hkey
        obtain ⟨htmem, htname⟩ := tableNamed?_eq_some ht
        obtain ⟨hcmem, hcname⟩ := Table.column?_eq_some hc
        exact ⟨t, htmem, c, hcmem, Reference.names_iff.mpr ⟨htname, hcname⟩, hkey⟩
  · rintro ⟨t, ht, c, hc, hr, hkey⟩
    obtain ⟨htname, hcname⟩ := Reference.names_iff.mp hr
    have hcolumn : t.column? r.column = some c :=
      (hs.columns t ht).find?_eq_some_iff.mpr ⟨hc, hcname⟩
    simp only [(tableNamed?_eq_some_iff hs.tables).mpr ⟨ht, htname⟩, hcolumn, hkey, if_true]

/-- A column is not listed as stale if and only if its reference leads to a primary key. -/
lemma not_stale_iff (hs : s.HasDistinctNames) (ht : t ∈ s.tables) (hc : c ∈ t.columns)
    (hr : c.reference = some r) :
    (∀ stale ∈ s.staleReferences, stale.table = t.name → stale.column ≠ c.name)
      ↔ r.LeadsToKey s.tables := by
  rw [← hs.staleReason?_eq_none_iff]
  constructor
  · intro h
    cases hreason : r.staleReason? s.tables with
    | none => rfl
    | some reason =>
      refine absurd rfl (h ⟨t.name, c.name, r, reason⟩ ?_ rfl)
      refine List.mem_flatMap.mpr ⟨t, ht, List.mem_filterMap.mpr
        ⟨(c, r), Table.mem_references.mpr ⟨hc, hr⟩, ?_⟩⟩
      exact Option.map_eq_some_iff.mpr ⟨reason, hreason, rfl⟩
  · intro hnone stale hstale htable hcolumn
    obtain ⟨u, hu, hstale⟩ := List.mem_flatMap.mp hstale
    obtain ⟨p, hp, hstale⟩ := List.mem_filterMap.mp hstale
    obtain ⟨reason, hreason, rfl⟩ := Option.map_eq_some_iff.mp hstale
    obtain ⟨hpmem, hpr⟩ := Table.mem_references.mp hp
    obtain ⟨rfl, rfl⟩ := hs.eq_of_names (r := ⟨t.name, c.name⟩) hu hpmem ht hc
      (Reference.names_iff.mpr ⟨htable ▸ namesMatch_refl _, hcolumn ▸ namesMatch_refl _⟩)
      (Reference.names_self ⟨t.name, c.name⟩)
    obtain rfl := Option.some.inj (hr.symm.trans hpr)
    exact Option.some_ne_none _ (hreason.symm.trans hnone)

end Schema.HasDistinctNames

/-! ### The key that a reference leads to -/

namespace Command

/-- The name, after the command, of the column to which it gives a reference. -/
def referrerName? : Command → Option String
  | addColumn _ column => some (Text.trim column.name)
  | updateColumn _ _ replacement => some (Text.trim replacement.name)
  | setForeignKey _ name _ _ | connect _ name _ _ => some name
  | _ => none

/-- The column to which the command has given a reference, with its table. -/
def referrer? (after : Schema) (command : Command) : Option (Table × Column) :=
  (command.tableId?.bind after.table?).bind fun t =>
    (command.referrerName?.bind t.column?).map fun c => (t, c)

/-- The command gives a column a reference, which in the case of a replaced column is another one
than before. -/
def MakesReference (s : Schema) (command : Command) : Prop :=
  match command with
  | addColumn _ column => column.reference.isSome = true
  | updateColumn _ _ replacement => replacement.reference.isSome = true
    ∧ ∃ q ∈ command.columnAt? s, replacement.reference ≠ q.2.reference
  | setForeignKey _ _ _ _ | connect _ _ _ _ => True
  | _ => False

/-- The command lets a column refer to its own table, of which the primary key changes with it: the
column becomes the key in the place of the one referred to, or it was the key and ceases to be
it. -/
def TakesOwnKey (s : Schema) (command : Command) : Prop :=
  ∃ p ∈ command.tableAt? s, match command with
    | addColumn _ column =>
      column.primaryKey = true ∧ ∃ r ∈ column.reference, namesMatch r.table p.2.name = true
    | updateColumn _ _ replacement => ∃ q ∈ command.columnAt? s, ∃ r ∈ replacement.reference,
      namesMatch r.table p.2.name = true
        ∧ replacement.primaryKey ≠ namesMatch r.column q.2.name
    | _ => False

section

variable {s s' : Schema} {command : Command} {fresh : TableId} {i j k l : ℕ} {t' u : Table}
  {c d : Column} {r : Reference}

lemma referrer?_eq_some {id : TableId} {name : String} (hs' : s'.HasDistinctNames)
    (hid : command.tableId? = some id) (hname : command.referrerName? = some name)
    (ht' : t' ∈ s'.tables) (htid : t'.id = id) (hd : d ∈ t'.columns)
    (hdname : namesMatch d.name name = true) : command.referrer? s' = some (t', d) := by
  have htable : s'.table? id = some t' := hs'.table?_eq_some_iff.mpr ⟨ht', htid⟩
  have hcolumn : t'.column? name = some d :=
    (hs'.columns t' ht').find?_eq_some_iff.mpr ⟨hd, hdname⟩
  rw [referrer?, hid, Option.bind_some, htable, Option.bind_some, hname, Option.bind_some, hcolumn]
  rfl

/-- What becomes of a key that is not in the place of the column which the command is about: it is
one still, unless the command makes another one in that table. -/
lemma leadsToKey_iff_of_frame (hs' : s'.WellFormed) (hframe : command.Frame fresh s s'.tables)
    (hkeepsNames : ¬command.RenamesTable) (hremaining : command.remaining s = s.tables)
    (hat : command.IsAt s k → k = i) (ht' : s'.tables[i]? = some t')
    (hd : t'.columns[j]? = some d) (hmakes : command.MakesKey s → d.primaryKey = true)
    (hu : s.tables[k]? = some u) (hc : u.columns[l]? = some c) (hkey : c.primaryKey = true)
    (hr : r.names u.name c.name = true) (hplace : command.MakesKey s → ¬(k = i ∧ l = j))
    (hedits : ¬(command.EditsColumn ∧ command.IsAtColumn s k l)) :
    r.LeadsToKey s'.tables ↔ ¬(command.MakesKey s ∧ k = i) := by
  rw [← hremaining] at hu
  obtain ⟨u', hu'⟩ := hframe.exists_table hu
  have hkeeps := hframe.tables k u u' hu hu'
  obtain ⟨c', hc'⟩ := hkeeps.exists_column hc
  have hcolumn := hkeeps.columns l c c' hc hc'
  have hcontent := hcolumn.content.resolve_left hedits
  have hr' : r.names u'.name c'.name = true := by
    rw [hkeeps.name.resolve_left fun h => hkeepsNames h.1, hcontent]
    exact hr
  have hu'mem := List.mem_of_getElem? hu'
  rw [hs'.hasDistinctNames.leadsToKey_iff hu'mem (List.mem_of_getElem? hc') hr']
  rcases hcolumn.primaryKey with hat | hsame | ⟨hmakesKey, hatTable, -, hlost⟩
  · exact absurd hat hedits
  · rw [hsame, hkey]
    refine iff_of_true rfl ?_
    rintro ⟨hmakesKey, rfl⟩
    obtain rfl := Option.some.inj (ht'.symm.trans hu')
    refine hplace hmakesKey ⟨rfl, ?_⟩
    exact eq_of_countP_le_one (hs'.tables t' hu'mem).oneKey hc' hd (hsame.trans hkey)
      (hmakes hmakesKey)
  · exact iff_of_false (by simp [hlost]) (not_not.mpr ⟨hmakesKey, hat hatTable⟩)

end

end Command

/-! ### Each kind of command -/

namespace Schema

variable {s s' : Schema} {fresh id : TableId} {name : String} {command : Command}

/-- What passes the gate names a primary key, which has its place. -/
lemma exists_key_of_checkReference {tables : List Table} {owner : String} {source : ColumnDef}
    {r : Reference} (h : checkReference tables owner source r = .ok ()) :
    ∃ (k l : ℕ) (u : Table) (c : Column), tables[k]? = some u ∧ u.columns[l]? = some c
      ∧ r.names u.name c.name = true ∧ c.primaryKey = true
      ∧ (namesMatch u.name owner && namesMatch c.name source.name) = false := by
  obtain ⟨u, hu, c, hc, hself, hkey, -⟩ := checkReference_eq_ok.mp h
  obtain ⟨humem, huname⟩ := tableNamed?_eq_some hu
  obtain ⟨hcmem, hcname⟩ := Table.column?_eq_some hc
  obtain ⟨k, hk⟩ := List.mem_iff_getElem?.mp humem
  obtain ⟨l, hl⟩ := List.mem_iff_getElem?.mp hcmem
  exact ⟨k, l, u, c, hk, hl, Reference.names_iff.mpr ⟨huname, hcname⟩, hkey, hself⟩

/-- After the command the column `c` of the table `t` has the reference `r` from it, which leads to
a key unless the command takes its own. -/
structure LeavesReference (s s' : Schema) (command : Command) (t : Table) (c : Column)
    (r : Reference) : Prop where
  referrer : command.referrer? s' = some (t, c)
  table_mem : t ∈ s'.tables
  column_mem : c ∈ t.columns
  reference : c.reference = some r
  leadsToKey_iff : r.LeadsToKey s'.tables ↔ ¬command.TakesOwnKey s

lemma leavesReference_addColumn {column : Column} (hw : s.WellFormed)
    (hmakes : column.reference.isSome = true) (h : s.addColumn id column = .ok s') :
    ∃ t c r, s.LeavesReference s' (.addColumn id column) t c r := by
  have happly : s.apply id (.addColumn id column) = .ok s' := h
  have hw' : s'.WellFormed := hw.apply not_false.elim happly
  obtain ⟨i, table, hi, -, added, hadded, -, hcheck, hs'⟩ := addColumn_effect h
  obtain ⟨hget, hid⟩ := locate_spec hi
  have htable : (Command.addColumn id column).tableAt? s = some (i, table) :=
    Command.tableAt?_eq_some rfl hi
  obtain ⟨r, hr⟩ := Option.isSome_iff_exists.mp hmakes
  have hreference : added.reference = some r := by rw [hadded, hr]
  rw [checkOwnReference, hreference] at hcheck
  obtain ⟨k, l, u, c, hu, hc, hnames, hkey, -⟩ := exists_key_of_checkReference hcheck
  obtain ⟨d, hd, hdef⟩ := table.exists_append added
  have ht' : s'.tables[i]? = some (table.append added) := by
    rw [hs', List.getElem?_modify_eq, hget]
    rfl
  have htmem := List.mem_of_getElem? ht'
  have hdmem := List.mem_of_getElem? hd
  refine ⟨table.append added, d, r, Command.referrer?_eq_some hw'.hasDistinctNames rfl rfl htmem hid
    hdmem ?_, htmem, hdmem, (congrArg ColumnDef.reference hdef).trans hreference, ?_⟩
  · rw [hdef, hadded]
    exact namesMatch_refl _
  · rw [Command.leadsToKey_iff_of_frame hw' (frame_apply happly) (fun h => h) rfl
      (Command.eq_of_isAt htable) ht' hd ?_ hu hc hkey hnames ?_ ?_, not_iff_not,
      hw.hasDistinctNames.place_eq_iff hget hu (Reference.names_iff.mp hnames).1]
    · constructor
      · rintro ⟨hmakesKey, hmatch⟩
        exact ⟨_, htable, hmakesKey, r, hr, hmatch⟩
      · rintro ⟨p, hp, hmakesKey, q, hq, hmatch⟩
        obtain rfl := Option.some.inj (htable.symm.trans hp)
        obtain rfl := Option.some.inj (hr.symm.trans hq)
        exact ⟨hmakesKey, hmatch⟩
    · intro hmakesKey
      rw [hdef, hadded]
      exact hmakesKey
    · rintro - ⟨rfl, rfl⟩
      obtain rfl := Option.some.inj (hget.symm.trans hu)
      exact absurd hc (by simp)
    · rintro ⟨hedits, -⟩
      exact hedits

lemma leavesReference_setForeignKey (hw : s.WellFormed)
    (h : s.setForeignKey id name targetId targetName = .ok s') :
    ∃ t c r, s.LeavesReference s' (.setForeignKey id name targetId targetName) t c r := by
  have happly : s.apply id (.setForeignKey id name targetId targetName) = .ok s' := h
  have hw' : s'.WellFormed := hw.apply not_false.elim happly
  obtain ⟨i, table, hi, j, column, hj, _, target, -, chosen, -, hcheck, hs'⟩ :=
    setForeignKey_effect h
  obtain ⟨hget, hid⟩ := locate_spec hi
  obtain ⟨hcolumn, hname⟩ := Table.locate_spec hj
  have htable : (Command.setForeignKey id name targetId targetName).tableAt? s = some (i, table) :=
    Command.tableAt?_eq_some rfl hi
  obtain ⟨k, l, u, c, hu, hc, hnames, hkey, -⟩ := exists_key_of_checkReference hcheck
  have hd : (table.columns.modify j fun c =>
      { c with reference := some ⟨target.name, chosen.name⟩ })[j]?
        = some { column with reference := some ⟨target.name, chosen.name⟩ } := by
    rw [List.getElem?_modify_eq, hcolumn]
    rfl
  have ht' : s'.tables[i]? = some { table with columns := table.columns.modify j fun c =>
      { c with reference := some ⟨target.name, chosen.name⟩ } } := by
    rw [hs', withReference, List.getElem?_modify_eq, hget]
    rfl
  have htmem := List.mem_of_getElem? ht'
  have hdmem := List.mem_of_getElem? hd
  refine ⟨_, _, _, Command.referrer?_eq_some hw'.hasDistinctNames rfl rfl htmem hid hdmem hname,
    htmem, hdmem, rfl, ?_⟩
  rw [Command.leadsToKey_iff_of_frame hw' (frame_apply happly) (fun h => h) rfl
    (Command.eq_of_isAt htable) ht' hd (fun hmakes => hmakes.elim) hu hc hkey hnames
    (fun hmakes => hmakes.elim) (fun hedits => hedits.1), not_iff_not]
  refine iff_of_false (fun hmakes => hmakes.1) ?_
  rintro ⟨p, -, hfalse⟩
  exact hfalse

section UpdateColumn

variable {replacement current c : Column} {table u : Table} {i j k l : ℕ} {r : Reference}

lemma takesOwnKey_updateColumn_iff (hi : s.locate id = .ok (i, table))
    (hj : table.locate name = .ok (j, current)) (hr : replacement.reference = some r) :
    (Command.updateColumn id name replacement).TakesOwnKey s
      ↔ namesMatch r.table table.name = true
        ∧ replacement.primaryKey ≠ namesMatch r.column current.name := by
  obtain ⟨htable, hcolumn⟩ := Command.columnAt?_updateColumn replacement hi hj
  constructor
  · rintro ⟨p, hp, q, hq, r', hr', hmatch⟩
    obtain rfl := Option.some.inj (htable.symm.trans hp)
    obtain rfl := Option.some.inj (hcolumn.symm.trans hq)
    obtain rfl := Option.some.inj (hr.symm.trans hr')
    exact hmatch
  · exact fun hmatch => ⟨_, htable, _, hcolumn, r, hr, hmatch⟩

/-- A reference to the replaced column under its old name follows it to the new one. -/
lemma leadsToKey_updateColumn_self (hs' : s'.HasDistinctNames)
    (h : s.updateColumn id name replacement = .ok s') (hi : s.locate id = .ok (i, table))
    (hj : table.locate name = .ok (j, current))
    (hren : namesMatch current.name (Text.trim replacement.name) = false)
    (hown : r.names table.name current.name = true) :
    ((Command.updateColumn id name replacement).carried s r).LeadsToKey s'.tables
      ↔ replacement.primaryKey = true := by
  obtain ⟨t', d, ht', hd, -, htname, hdname, hdkey, -⟩ := exists_updatedColumn h hi hj
  have hnames' : Reference.names { r with column := Text.trim replacement.name } t'.name d.name
      = true := by
    rw [htname, hdname]
    exact Bool.and_eq_true_iff.mpr ⟨(Bool.and_eq_true_iff.mp hown).1, namesMatch_refl _⟩
  rw [carried_updateColumn hi hj, hren, hown, Bool.not_false, Bool.and_self, if_pos rfl,
    hs'.leadsToKey_iff (List.mem_of_getElem? ht') (List.mem_of_getElem? hd) hnames', hdkey]

/-- The key of a table is one still, unless another column that is replaced becomes the key. -/
lemma leadsToKey_updateColumn_of_other (hw : s.WellFormed) (hw' : s'.WellFormed)
    (h : s.updateColumn id name replacement = .ok s') (hi : s.locate id = .ok (i, table))
    (hj : table.locate name = .ok (j, current)) (hu : s.tables[k]? = some u)
    (hc : u.columns[l]? = some c) (hnames : r.names u.name c.name = true)
    (hkey : c.primaryKey = true) (hother : r.names table.name current.name = false) :
    ((Command.updateColumn id name replacement).carried s r).LeadsToKey s'.tables
      ↔ ¬(replacement.primaryKey = true ∧ namesMatch r.table table.name = true) := by
  have happly : s.apply id (.updateColumn id name replacement) = .ok s' := h
  have hget := (locate_spec hi).1
  have hcurrent := (Table.locate_spec hj).1
  obtain ⟨htable, hcolumn⟩ := Command.columnAt?_updateColumn replacement hi hj
  obtain ⟨t', d, ht', hd, -, -, -, hdkey, -⟩ := exists_updatedColumn h hi hj
  have hplace : ¬(k = i ∧ l = j) := by
    rintro ⟨rfl, rfl⟩
    obtain rfl := Option.some.inj (hget.symm.trans hu)
    obtain rfl := Option.some.inj (hcurrent.symm.trans hc)
    exact Bool.false_ne_true (hother.symm.trans hnames)
  rw [carried_updateColumn hi hj, hother, Bool.and_false, if_neg Bool.false_ne_true,
    Command.leadsToKey_iff_of_frame hw' (frame_apply happly) (fun h => h) rfl
      (Command.eq_of_isAt htable) ht' hd (fun hmakes => hdkey.trans hmakes.1) hu hc hkey hnames
      (fun _ => hplace) (fun hedits => hplace (Command.eq_of_isAtColumn htable hcolumn hedits.2)),
    not_iff_not, hw.hasDistinctNames.place_eq_iff hget hu (Reference.names_iff.mp hnames).1]
  refine and_congr_left fun hmatch => ⟨fun hmakes => hmakes.1, fun hnewKey => ?_⟩
  refine ⟨hnewKey, _, hcolumn, ?_⟩
  -- the key referred to is in another place of the table, and it is the only one
  obtain rfl := (hw.hasDistinctNames.place_eq_iff hget hu (Reference.names_iff.mp hnames).1).mpr
    hmatch
  obtain rfl := Option.some.inj (hget.symm.trans hu)
  rw [← Bool.not_eq_true]
  exact fun hcurrentKey => hplace ⟨rfl, eq_of_countP_le_one
    (hw.tables table (List.mem_of_getElem? hget)).oneKey hc hcurrent hkey hcurrentKey⟩

lemma leavesReference_updateColumn (hw : s.WellFormed)
    (hmakes : (Command.updateColumn id name replacement).MakesReference s)
    (h : s.updateColumn id name replacement = .ok s') :
    ∃ t c r, s.LeavesReference s' (.updateColumn id name replacement) t c r := by
  have happly : s.apply id (.updateColumn id name replacement) = .ok s' := h
  have hw' : s'.WellFormed := hw.apply not_false.elim happly
  obtain ⟨i, table, hi, j, current, hj, placed, hplaced, -, hcheck, -⟩ :=
    updateColumn_effect_carried h
  obtain ⟨-, hcolumn⟩ := Command.columnAt?_updateColumn replacement hi hj
  obtain ⟨hsome, q, hq, hother⟩ := hmakes
  obtain rfl := Option.some.inj (hcolumn.symm.trans hq)
  obtain ⟨r, hr⟩ := Option.isSome_iff_exists.mp hsome
  have hreference : placed.reference = some r := by rw [hplaced, hr]
  have hgate := hcheck (by simp [bringsReference, hplaced, hother])
  rw [checkOwnReference, hreference] at hgate
  obtain ⟨k, l, u, c, hu, hc, hnames, hkey, hself⟩ := exists_key_of_checkReference hgate
  obtain ⟨t', d, ht', hd, htid, -, hdname, -, -, hdreference⟩ := exists_updatedColumn h hi hj
  have htmem := List.mem_of_getElem? ht'
  have hdmem := List.mem_of_getElem? hd
  rw [hr, Option.map_some] at hdreference
  refine ⟨t', d, _, Command.referrer?_eq_some hw'.hasDistinctNames rfl rfl htmem
    (htid.trans (locate_spec hi).2) hdmem (hdname ▸ namesMatch_refl _), htmem, hdmem, hdreference,
    ?_⟩
  rw [takesOwnKey_updateColumn_iff hi hj hr]
  cases hown : r.names table.name current.name with
  | true =>
    obtain ⟨htmatch, hcmatch⟩ := Bool.and_eq_true_iff.mp hown
    obtain ⟨rfl, rfl⟩ := hw.hasDistinctNames.eq_of_names (List.mem_of_getElem? hu)
      (List.mem_of_getElem? hc) (List.mem_of_getElem? (locate_spec hi).1)
      (List.mem_of_getElem? (Table.locate_spec hj).1) hnames hown
    -- the gate has let a reference to the column itself pass, which is being renamed
    have hren : namesMatch c.name (Text.trim replacement.name) = false := by
      rw [hplaced, namesMatch_refl, Bool.true_and] at hself
      exact hself
    rw [leadsToKey_updateColumn_self hw'.hasDistinctNames h hi hj hren hown]
    simp [htmatch, hcmatch]
  | false =>
    rw [leadsToKey_updateColumn_of_other hw hw' h hi hj hu hc hnames hkey hown, not_iff_not,
      and_comm]
    refine and_congr_right fun hmatch => ?_
    rw [Reference.names, hmatch, Bool.true_and] at hown
    rw [hown, Bool.ne_false_iff]

end UpdateColumn

end Schema

/-! ### New references -/

namespace Schema

variable {s s' : Schema} {fresh : TableId} {command : Command}
  {commands : List (TableId × Command)}

/-- After any sequence of commands on the empty schema, a command that gives a column a reference
leaves one that leads to a primary key and is not listed as stale, if and only if the command does
not take away the primary key of the table that the column itself is in and refers to. -/
theorem newReference_live_iff (hfresh : empty.DrawsFresh commands)
    (hmakes : command.MakesReference (empty.run commands))
    (h : (empty.run commands).apply fresh command = .ok s') :
    ∃ t c r, command.referrer? s' = some (t, c) ∧ c.reference = some r
      ∧ ((∀ stale ∈ s'.staleReferences, stale.table = t.name → stale.column ≠ c.name)
        ↔ ¬command.TakesOwnKey (empty.run commands))
      ∧ (r.LeadsToKey s'.tables ↔ ¬command.TakesOwnKey (empty.run commands)) := by
  have hw := wellFormed_run_empty hfresh
  obtain ⟨hw', t, c, r, hleaves⟩ : s'.WellFormed
      ∧ ∃ t c r, (empty.run commands).LeavesReference s' command t c r := by
    cases command with
    | addColumn id column =>
      exact ⟨hw.apply not_false.elim h, leavesReference_addColumn hw hmakes h⟩
    | updateColumn id name replacement =>
      exact ⟨hw.apply not_false.elim h, leavesReference_updateColumn hw hmakes h⟩
    | setForeignKey id name targetId targetName =>
      exact ⟨hw.apply not_false.elim h, leavesReference_setForeignKey hw h⟩
    | connect id name targetId targetName =>
      obtain ⟨t, c, r, hleaves⟩ := leavesReference_setForeignKey hw h
      exact ⟨hw.apply not_false.elim h, t, c, r, hleaves.referrer, hleaves.table_mem,
        hleaves.column_mem, hleaves.reference, hleaves.leadsToKey_iff⟩
    | _ => exact hmakes.elim
  refine ⟨t, c, r, hleaves.referrer, hleaves.reference, ?_, hleaves.leadsToKey_iff⟩
  rw [hw'.hasDistinctNames.not_stale_iff hleaves.table_mem hleaves.column_mem hleaves.reference]
  exact hleaves.leadsToKey_iff

/-- The last column of `sampleCommands` as a primary key, with its reference spelled anew. -/
def rekeyedColumn : Column :=
  { name := " buyer ", type := .int, primaryKey := true, reference := some ⟨"USERS", "Id"⟩,
    id := ⟨"b"⟩ }

/-- A column that becomes a key may refer to the key of another table. The reference leads there,
whatever its spelling, and is not stale. -/
theorem newReference_live_rekeyedColumn : empty.DrawsFresh sampleCommands
    ∧ (Command.updateColumn ⟨"4"⟩ "User_Id" rekeyedColumn).MakesReference
      (empty.run sampleCommands)
    ∧ ¬(Command.updateColumn ⟨"4"⟩ "User_Id" rekeyedColumn).TakesOwnKey (empty.run sampleCommands)
    ∧ ∃ s', (empty.run sampleCommands).apply ⟨"8"⟩
        (.updateColumn ⟨"4"⟩ "User_Id" rekeyedColumn) = .ok s'
      ∧ ∃ t c r, (Command.updateColumn ⟨"4"⟩ "User_Id" rekeyedColumn).referrer? s' = some (t, c)
        ∧ c.reference = some r
        ∧ (∀ stale ∈ s'.staleReferences, stale.table = t.name → stale.column ≠ c.name)
        ∧ r.LeadsToKey s'.tables := by
  have hfresh : empty.DrawsFresh sampleCommands := drawsFresh_of_nodup (by decide)
  have hmakes : (Command.updateColumn ⟨"4"⟩ "User_Id" rekeyedColumn).MakesReference
      (empty.run sampleCommands) := ⟨rfl, _, rfl, by decide⟩
  have hown : ¬(Command.updateColumn ⟨"4"⟩ "User_Id" rekeyedColumn).TakesOwnKey
      (empty.run sampleCommands) := by
    rintro ⟨p, hp, q, hq, r, hr, hmatch, -⟩
    obtain rfl := Option.some.inj hp
    obtain rfl := Option.some.inj hr
    revert hmatch
    decide
  have happly : (empty.run sampleCommands).apply ⟨"8"⟩
      (.updateColumn ⟨"4"⟩ "User_Id" rekeyedColumn) = .ok _ := rfl
  obtain ⟨t, c, r, hreferrer, hreference, hstale, hleads⟩ :=
    newReference_live_iff hfresh hmakes happly
  exact ⟨hfresh, hmakes, hown, _, happly, t, c, r, hreferrer, hreference, hstale.mpr hown,
    hleads.mpr hown⟩

/-- A table with a primary key. -/
def keyedCommands : List (TableId × Command) :=
  [(⟨"1"⟩, .addTable "t"),
    (⟨"2"⟩, .addColumn ⟨"1"⟩ { name := "id", type := .int, primaryKey := true, id := ⟨"a"⟩ })]

/-- Another primary key, with a reference to the old one. -/
def keyTakingColumn : Column :=
  { name := "key", type := .int, primaryKey := true, reference := some ⟨"t", "id"⟩, id := ⟨"b"⟩ }

/-- The gate finds the old key, which then gives way to the column that refers to it. -/
theorem stale_keyTakingColumn : empty.DrawsFresh keyedCommands
    ∧ (Command.addColumn ⟨"1"⟩ keyTakingColumn).MakesReference (empty.run keyedCommands)
    ∧ ∃ s', (empty.run keyedCommands).apply ⟨"3"⟩ (.addColumn ⟨"1"⟩ keyTakingColumn) = .ok s'
      ∧ s'.staleReferences = [⟨"t", "key", ⟨"t", "id"⟩, .notPrimaryKey⟩]
      ∧ ¬Reference.LeadsToKey s'.tables ⟨"t", "id"⟩ :=
  ⟨drawsFresh_of_nodup (by decide), rfl, _, rfl, by decide, by decide⟩

end Schema

/-! ### All ways of setting a reference -/

namespace Schema

variable {s : Schema} {fresh id targetId : TableId} {name targetName : String}
  {table target : Table} {column chosen : Column}

section Setting

variable {i j : ℕ} (hi : s.locate id = .ok (i, table)) (hj : table.locate name = .ok (j, column))

include hi hj

/-- Choosing a reference asks the gate and sets it. -/
lemma setForeignKey_eq (htarget : s.table? targetId = some target)
    (hchosen : target.column? targetName = some chosen) :
    s.setForeignKey id name targetId targetName = do
      checkReference s.tables table.name column.toColumnDef ⟨target.name, chosen.name⟩
      return s.withReference i j (some ⟨target.name, chosen.name⟩) := by
  obtain ⟨k, hk⟩ := exists_locate_of_table? htarget
  simp only [setForeignKey, hi, hj, hk, hchosen, ok_bind]

/-- Replacing a column by itself with another reference does the same. -/
lemma updateColumn_withReference_eq (hname : IsProperName column.name) {r : Reference}
    (hother : column.reference ≠ some r) :
    s.updateColumn id name { column with reference := some r } = do
      checkReference s.tables table.name column.toColumnDef r
      return s.withReference i j (some r) := by
  have hget := (locate_spec hi).1
  have hcurrent := (Table.locate_spec hj).1
  have htrimmed : trimmedColumn { column with reference := some r }
      = .ok { column with reference := some r } :=
    trimmedColumn_eq_ok.mpr ⟨by rw [hname.2]; exact hname.1, by rw [hname.2]⟩
  have hbrings : bringsReference column.toColumnDef { column.toColumnDef with reference := some r }
      = true := by
    simp [bringsReference, Ne.symm hother]
  have hplaced : s.withReference i j (some r)
      = ⟨s.tables.modify i (Table.put j false { column with reference := some r })⟩ :=
    congrArg Schema.mk (OutlineChange.withReference_tables hget hcurrent (some r))
  simp only [updateColumn, hi, hj, htrimmed, hbrings, ok_bind, namesMatch_refl, Bool.not_true,
    Bool.false_and, Bool.and_not_self, Bool.false_eq_true, if_false, if_true, checkOwnReference,
    hplaced]
  rfl

end Setting

variable {commands : List (TableId × Command)}

/-- After any sequence of commands on the empty schema, it is all the same whether a column gets
another reference than it has from the form of the column, from the canvas, or by replacing the
column: the change is the same, or the refusal. -/
theorem setForeignKey_eq_connect_eq_updateColumn (hfresh : empty.DrawsFresh commands)
    (htable : (empty.run commands).table? id = some table)
    (hcolumn : table.column? name = some column)
    (htarget : (empty.run commands).table? targetId = some target)
    (hchosen : target.column? targetName = some chosen)
    (hother : column.reference ≠ some ⟨target.name, chosen.name⟩) :
    (empty.run commands).apply fresh (.connect id name targetId targetName)
        = (empty.run commands).apply fresh (.setForeignKey id name targetId targetName)
      ∧ (empty.run commands).apply fresh (.updateColumn id name
          { column with reference := some ⟨target.name, chosen.name⟩ })
        = (empty.run commands).apply fresh (.setForeignKey id name targetId targetName) := by
  obtain ⟨i, hi⟩ := exists_locate_of_table? htable
  obtain ⟨j, hj⟩ := Table.exists_locate_of_column? hcolumn
  have hmem := List.mem_of_find?_eq_some htable
  have hname : IsProperName column.name :=
    ((wellFormed_run_empty hfresh).tables table hmem).proper column
      (Table.column?_eq_some hcolumn).1
  refine ⟨rfl, ?_⟩
  have hset := setForeignKey_eq hi hj htarget hchosen
  exact (updateColumn_withReference_eq hi hj hname hother).trans hset.symm

/-- Before the reference of the run is made, it can be made in all three ways, by names in any case.
-/
theorem setForeignKey_eq_sampleCommands : empty.DrawsFresh (sampleCommands.take 5)
    ∧ ∃ table column target chosen,
      (empty.run (sampleCommands.take 5)).table? ⟨"4"⟩ = some table
      ∧ table.column? "USER_ID" = some column
      ∧ (empty.run (sampleCommands.take 5)).table? ⟨"1"⟩ = some target
      ∧ target.column? "ID" = some chosen
      ∧ column.reference ≠ some ⟨target.name, chosen.name⟩
      ∧ (empty.run (sampleCommands.take 5)).apply ⟨"6"⟩ (.connect ⟨"4"⟩ "USER_ID" ⟨"1"⟩ "ID")
          = (empty.run (sampleCommands.take 5)).apply ⟨"6"⟩
            (.setForeignKey ⟨"4"⟩ "USER_ID" ⟨"1"⟩ "ID")
      ∧ (empty.run (sampleCommands.take 5)).apply ⟨"6"⟩ (.updateColumn ⟨"4"⟩ "USER_ID"
          { column with reference := some ⟨target.name, chosen.name⟩ })
        = (empty.run (sampleCommands.take 5)).apply ⟨"6"⟩
          (.setForeignKey ⟨"4"⟩ "USER_ID" ⟨"1"⟩ "ID") := by
  have hfresh : empty.DrawsFresh (sampleCommands.take 5) := drawsFresh_of_nodup (by decide)
  exact ⟨hfresh, _, _, _, _, rfl, rfl, rfl, rfl, nofun,
    setForeignKey_eq_connect_eq_updateColumn hfresh rfl rfl rfl rfl nofun⟩

end Schema

end SchemaDesigner
