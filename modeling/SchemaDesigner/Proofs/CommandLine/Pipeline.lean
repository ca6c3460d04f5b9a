/-
A script imported into a project file and generated from there is written as it would be at once.

* `Table.identities`: the identities of a table and of its columns;
* `resolveReferences_ofDefs`: if the script has none of the new identities in it, no reference is
  taken for one by identity;
* `HasSolidNames.isStorable`: without blank names, all columns are in the form in which reading
  leaves them;
* `Project.ofText_imported`: so the project that is saved is read back, and it has these tables;
* `render_congr`: identities and places do not matter for what is written;
* `runRequest_importScript`, `runRequest_generate`: what the two runs do with the file;
* `run_generate_run_import`: the second run prints what the script is written as at once.
-/
import SchemaDesigner.CommandLine.Run
import SchemaDesigner.Proofs.Project.Reopen
import SchemaDesigner.Proofs.Script.Origin
import SchemaDesigner.Proofs.Script.Reexport
import SchemaDesigner.Proofs.Storage.Directory

namespace SchemaDesigner

/-! ### New identities -/

/-- The identities of the table and of its columns. -/
def Table.identities (t : Table) : List String :=
  t.id.text :: t.columns.map fun c => c.id.text

lemma Column.exists_identityText_ofDef (d : ColumnDef) (ids : IdSupply) :
    ∃ n, (Column.ofDef d ids).1.id.text = identityText n :=
  ⟨ids.next, rfl⟩

lemma Table.exists_identityText_ofDef (position : Position) (d : TableDef) (ids : IdSupply) :
    ∀ id ∈ (Table.ofDef position d ids).1.identities, ∃ n, id = identityText n := by
  have hcolumns : ∀ c ∈ (d.columns.mapM Column.ofDef ⟨ids.next + 1⟩).1,
      ∃ n, c.id.text = identityText n :=
    forall_mem_mapM Column.exists_identityText_ofDef _ _
  exact List.forall_mem_cons.mpr ⟨⟨ids.next, rfl⟩, List.forall_mem_map.mpr hcolumns⟩

/-- New tables and columns have new identities. -/
lemma exists_identityText_of_mem_ofDefs {ds : List TableDef} {ids : IdSupply} {t : Table}
    (h : t ∈ (Table.ofDefs ds ids).1) : ∀ id ∈ t.identities, ∃ n, id = identityText n := by
  have hall : ∀ t ∈ (ds.zipIdx.mapM (fun p => Table.ofDef (.grid p.2) p.1) ids).1,
      ∀ id ∈ t.identities, ∃ n, id = identityText n :=
    forall_mem_mapM (fun p ids => Table.exists_identityText_ofDef (.grid p.2) p.1 ids) _ _
  exact hall t h

lemma isAlphanum_of_mem_hexText {width n : ℕ} {c : Char} (h : c ∈ hexText width n) :
    c.isAlphanum = true := by
  induction width generalizing n with
  | zero => exact absurd h List.not_mem_nil
  | succ width ih =>
    rw [hexText, List.mem_append, List.mem_singleton] at h
    rcases h with h | rfl
    · exact ih h
    · have hdigit : ∀ k < 16, (Nat.digitChar k).isAlphanum = true := by decide
      exact hdigit _ (Nat.mod_lt n (by decide))

lemma forall_mem_identityText (n : ℕ) :
    ∀ c ∈ (identityText n).toList, c.isAlphanum = true ∨ c = '-' := by
  have hhex : ∀ width n, ∀ c ∈ hexText width n, c.isAlphanum = true ∨ c = '-' :=
    fun _ _ _ h => .inl (isAlphanum_of_mem_hexText h)
  have hvariant : ∀ k < 4, (Nat.digitChar (8 + k)).isAlphanum = true := by decide
  simp only [identityText, String.toList_ofList, List.forall_mem_append, List.forall_mem_cons]
  exact ⟨⟨⟨⟨hhex _ _, .inr trivial, hhex _ _⟩, .inr trivial, .inl (by decide), hhex _ _⟩,
    .inr trivial, .inl (hvariant _ (Nat.mod_lt _ (by decide))), hhex _ _⟩, .inr trivial, hhex _ _⟩

/-- An identity has no delimiter in it. -/
lemma Script.hasNoClosing_identityText (n : ℕ) : Script.HasNoClosing (identityText n) := by
  intro c close hclosing hmem
  have hchar := forall_mem_identityText n close hmem
  rw [Script.closing?.eq_def] at hclosing
  split at hclosing
  case h_4 => cases hclosing
  all_goals
    obtain rfl := Option.some.inj hclosing
    exact absurd hchar (by decide)

/-! ### What is saved -/

section Saved

variable {script : String} {ids : IdSupply} {t : Table}

/-- The script has no name of blanks only, nor an empty one. Only between delimiters can a name be
blank: a plain word begins with a letter or an underscore. -/
def Script.HasSolidNames (script : String) : Prop :=
  ∀ name, .ident name ∈ Script.tokenize script → Text.isBlankText name = false

/-- None of the new identities of its tables stands in the script. -/
def Script.HasNoIdentity (script : String) (ids : IdSupply) : Prop :=
  ∀ t ∈ (Table.ofDefs (Script.parse script) ids).1, ∀ id ∈ t.identities,
    ¬Script.IsPartOf id script

lemma Script.HasSolidNames.isSolid (h : Script.HasSolidNames script) :
    ∀ t ∈ Script.tokenize script, t.IsSolid := by
  intro t ht
  cases t with
  | ident name => exact h name ht
  | num text => exact Script.isBlankText_of_num_mem_tokenize ht
  | _ => trivial

lemma Script.HasSolidNames.iff_isSolid :
    Script.HasSolidNames script ↔ ∀ t ∈ Script.tokenize script, t.IsSolid :=
  ⟨Script.HasSolidNames.isSolid, fun h _ hname => h _ hname⟩

/-- The columns of the tables of a script are spelled by the tokens of the script. -/
lemma Script.HasSolidNames.isSpelledBy (h : Script.HasSolidNames script)
    (ht : t ∈ (Table.ofDefs (Script.parse script) ids).1) :
    ∀ c ∈ t.columns, c.IsSpelledBy (Script.tokenize script) := fun c hc =>
  Script.isSpelledBy_of_mem_definitions h.isSolid t.toDef
    (Script.mem_of_mem_keepFirst _ (Script.toDef_mem_parse ht)) c.toColumnDef
    (List.mem_map_of_mem hc)

/-- The tables of a script without blank names are in the form in which reading leaves tables. -/
lemma Script.HasSolidNames.isStorable (h : Script.HasSolidNames script)
    (ht : t ∈ (Table.ofDefs (Script.parse script) ids).1) : t.IsStorable := by
  intro c hc
  obtain ⟨htype, hsize, hdefault, hreference⟩ := h.isSpelledBy ht c hc
  obtain ⟨n, hid⟩ := exists_identityText_of_mem_ofDefs ht c.id.text
    (List.mem_cons_of_mem _ (List.mem_map_of_mem hc))
  refine ⟨⟨?_, htype, hsize, hdefault⟩, fun r hr => ?_⟩
  · rw [hid]
    exact isBlankText_identityText n
  · obtain ⟨htable, hcolumn⟩ := hreference r hr
    exact ⟨h r.table htable, h r.column hcolumn⟩

/-- A name among the tokens of a script is none of the new identities. -/
lemma Script.HasNoIdentity.ne (h : Script.HasNoIdentity script ids) {name : String}
    (hname : .ident name ∈ Script.tokenize script)
    (ht : t ∈ (Table.ofDefs (Script.parse script) ids).1) : ∀ id ∈ t.identities, id ≠ name := by
  rintro id hid rfl
  obtain ⟨n, hn⟩ := exists_identityText_of_mem_ofDefs ht id hid
  refine h t ht id hid (Script.isPartOf_of_mem_tokenize hname ?_)
  rw [hn]
  exact Script.hasNoClosing_identityText n

/-- No reference of the script is taken for one by identity. -/
lemma resolveReferences_ofDefs (hnames : Script.HasSolidNames script)
    (hids : Script.HasNoIdentity script ids) :
    resolveReferences (Table.ofDefs (Script.parse script) ids).1
      = (Table.ofDefs (Script.parse script) ids).1 := by
  refine resolveReferences_eq_self_of_forall fun t ht c hc r hr => ?_
  obtain ⟨htable, hcolumn⟩ := (hnames.isSpelledBy ht c hc).reference r hr
  refine resolveReference_eq_self_of_ne (fun u hu => ?_) fun u hu k hk => ?_
  · exact hids.ne htable hu _ List.mem_cons_self
  · exact hids.ne hcolumn hu _ (List.mem_cons_of_mem _ (List.mem_map_of_mem hk))

/-- All places of the tables of a script are places of the grid. -/
lemma isReadBack_position_of_mem_ofDefs {ds : List TableDef}
    (hplaces : ∀ i < ds.length, (Position.grid i).IsReadBack) (ht : t ∈ (Table.ofDefs ds ids).1) :
    t.position.IsReadBack := by
  have hmem : t.position ∈ (Table.ofDefs ds ids).1.map fun t => t.position :=
    List.mem_map_of_mem ht
  rw [positions_ofDefs] at hmem
  obtain ⟨i, hi, hposition⟩ := List.mem_map.mp hmem
  rw [← hposition]
  exact hplaces i (List.mem_range.mp hi)

/-- The project of a script is read back from its text, and it has the tables of the script. -/
lemma Project.ofText_imported (name : String) {now : Timestamp} (later : Timestamp)
    (hnames : Script.HasSolidNames script) (hids : Script.HasNoIdentity script ids)
    (hplaces : ∀ i < (Script.parse script).length, (Position.grid i).IsReadBack)
    (htime : Timestamp.ofText now.text = .ok now) :
    Project.ofText later (ofSchema name now ⟨(Table.ofDefs (Script.parse script) ids).1⟩).toText
        = pure (ofSchema name now ⟨(Table.ofDefs (Script.parse script) ids).1⟩)
      ∧ (ofSchema name now ⟨(Table.ofDefs (Script.parse script) ids).1⟩).toSchema
        = ⟨(Table.ofDefs (Script.parse script) ids).1⟩ := by
  have hresolved := resolveReferences_ofDefs hnames hids
  refine ⟨ofText_toText later ?_ ?_ htime, toSchema_ofSchema_of_resolved hresolved⟩
  · exact isStorable_ofSchema_of_resolved (fun t ht => hnames.isStorable ht) hresolved
  · exact isPlaceable_ofSchema_of_places fun t ht => isReadBack_position_of_mem_ofDefs hplaces ht

end Saved

/-! ### What is written -/

namespace Script

variable {d : Dialect} {layout : Layout} {t u : Table} {ts us : List Table}

/-- What of a table goes into a script. -/
def content (t : Table) : TableDef × Option String :=
  (t.toDef, t.comment)

/-- The same columns are carried of two tables with the same content. -/
lemma exists_isReread_of_content_eq (d : Dialect) (h : content u = content t) :
    ∃ v, IsReread d u v ∧ IsReread d t v := by
  obtain ⟨hdef, hcomment⟩ := Prod.mk.inj h
  obtain ⟨hname, hcolumns⟩ := TableDef.mk.inj hdef
  refine ⟨{ t with columns := t.columns.map (Column.modify (ColumnDef.carried d)) },
    ⟨hname.symm, hcomment.symm, ?_⟩, ⟨rfl, rfl, ?_⟩⟩
  · calc (t.columns.map (Column.modify (ColumnDef.carried d))).map (fun c => c.toColumnDef)
        = (t.columns.map fun c => c.toColumnDef).map (ColumnDef.carried d) := by
          rw [List.map_map, List.map_map]
          rfl
      _ = u.columns.map fun c => c.toColumnDef.carried d := by
          rw [← hcolumns, List.map_map]
          rfl
  · rw [List.map_map]
    rfl

/-- Tables with the same content have the same script, whatever their identities and places are. -/
lemma render_congr (h : us.map content = ts.map content) (time : Timestamp) :
    render us d layout time = render ts d layout time := by
  have hall : List.Forall₂ (fun u t => content u = content t) us ts := by
    rw [← List.forall₂_map_right_iff, ← List.forall₂_map_left_iff, h]
    exact List.forall₂_same.mpr fun _ _ => rfl
  have hkinds : ∀ u t, content u = content t → u.hasReferences = t.hasReferences := by
    intro u t hut
    obtain ⟨v, hu, ht⟩ := exists_isReread_of_content_eq d hut
    rw [← hu.hasReferences_eq, ht.hasReferences_eq]
  have horder : List.Forall₂ (fun u t => content u = content t) (referringLast us)
      (referringLast ts) := by
    refine List.rel_append (List.rel_filter ?_ hall) (List.rel_filter ?_ hall)
    · exact fun u t hut => iff_of_eq (congrArg (fun b => (!b) = true) (hkinds u t hut))
    · exact fun u t hut => iff_of_eq (congrArg (· = true) (hkinds u t hut))
  have hlines : (referringLast us).map (renderTable d layout)
      = (referringLast ts).map (renderTable d layout) := by
    generalize referringLast us = us', referringLast ts = ts' at horder
    induction horder with
    | nil => rfl
    | cons hut _ ih =>
      obtain ⟨v, hu, ht⟩ := exists_isReread_of_content_eq d hut
      rw [List.map_cons, List.map_cons, ← hu.renderTable_eq, ht.renderTable_eq, ih]
  rw [render, render, hlines]

lemma map_content_ofDefs (ds : List TableDef) (ids : IdSupply) :
    (Table.ofDefs ds ids).1.map content = ds.map fun d => (d, none) := by
  obtain ⟨hdefs, hcomments⟩ := ofDefs_spec ds ids
  calc (Table.ofDefs ds ids).1.map content
      = (Table.ofDefs ds ids).1.map fun t => (t.toDef, none) :=
        List.map_congr_left fun t ht => congrArg (Prod.mk t.toDef) (hcomments t ht)
    _ = ((Table.ofDefs ds ids).1.map Table.toDef).map fun d => (d, none) := by
        rw [List.map_map]
        rfl
    _ = _ := by rw [hdefs]

lemma render_of_header_eq_false (h : layout.header = false) (time time' : Timestamp) :
    render ts d layout time = render ts d layout time' := by
  rw [render, render, h, if_neg Bool.false_ne_true, if_neg Bool.false_ne_true]

/-- Without a header neither identities nor the time matter for what a script is written as. -/
lemma reexport_eq (script : String) (ids ids' : IdSupply) (d : Dialect) (time time' : Timestamp) :
    reexport script ids d { header := false } time
      = reexport script ids' d { header := false } time' := by
  have htables : (Table.ofDefs (parse script) ids).1.map content
      = (Table.ofDefs (parse script) ids').1.map content := by
    rw [map_content_ofDefs, map_content_ofDefs]
  rw [reexport, reexport, render_of_header_eq_false rfl time time', render_congr htables]

end Script

/-! ### Runs -/

namespace CommandLine

open Storage (Directory FileAccess isProjectFile stem?)

variable {σ : Type} {s : Setting (StateM σ)} {input path script : String} {d : σ}

lemma run_eq {arguments : List String} {request : Request}
    (h : Request.ofArguments? arguments = some request) :
    run s arguments = runRequest s request := by
  rw [run, h]

lemma importTables_eq {ids : IdSupply} (h : Script.parse script ≠ []) :
    importTables script ids = .ok (Table.ofDefs (Script.parse script) ids) := by
  rw [importTables]
  split
  · rename_i hnil
    exact absurd hnil h
  · rfl

lemma readScript_eq (hscript : (s.files.read input d).1 = .ok script)
    (htables : Script.parse script ≠ []) : readScript s input d
      = (.ok ⟨(Table.ofDefs (Script.parse script) s.ids).1⟩, (s.files.read input d).2) := by
  have hread : s.files.read input d = (.ok script, (s.files.read input d).2) :=
    Prod.ext hscript rfl
  simp only [readScript, bind, StateT.bind]
  rw [hread]
  simp only [importTables_eq htables]
  rfl

lemma save_eq {p : Project} (hpath : isProjectFile path = true)
    (hwrite : (s.files.write path p.toText d).1 = .ok ()) :
    p.save s.files path d = (.ok (), (s.files.write path p.toText d).2) := by
  have hpair : s.files.write path p.toText d = (.ok (), (s.files.write path p.toText d).2) :=
    Prod.ext hwrite rfl
  simp only [Project.save, hpath, Bool.not_true, Bool.false_eq_true, if_false, bind, StateT.bind]
  rw [hpair]
  rfl

lemma readProject_eq {p : Project} (hpath : isProjectFile path = true)
    (hread : (s.files.read path d).1 = .ok p.toText)
    (hproject : Project.ofText s.now p.toText = pure p) :
    readProject s path d = (.ok p.toSchema, (s.files.read path d).2) := by
  have hpair : s.files.read path d = (.ok p.toText, (s.files.read path d).2) :=
    Prod.ext hread rfl
  have hload : Project.load s.files s.now s.ids path d
      = (.ok (p, s.ids), (s.files.read path d).2) := by
    simp only [Project.load, hpath, Bool.not_true, Bool.false_eq_true, if_false, bind, StateT.bind]
    rw [hpair]
    simp only [hproject]
    rfl
  simp only [readProject, bind, StateT.bind]
  rw [hload]
  rfl

/-- A script that has been imported into a file is there as a project. -/
lemma runRequest_importScript (name : Option String) (hpath : isProjectFile path = true)
    (hscript : (s.files.read input d).1 = .ok script) (htables : Script.parse script ≠ [])
    (hkeeps : s.files.Keeps (s.files.read input d).2 path) :
    (runRequest s (.importScript input name (some path)) d).1.code = 0
      ∧ (s.files.read path (runRequest s (.importScript input name (some path)) d).2).1
        = .ok (Project.ofSchema (name.getD ((stem? input).getD untitled)) s.now
          ⟨(Table.ofDefs (Script.parse script) s.ids).1⟩).toText := by
  obtain ⟨hwrite, hread⟩ := hkeeps (Project.ofSchema (name.getD ((stem? input).getD untitled)) s.now
    ⟨(Table.ofDefs (Script.parse script) s.ids).1⟩).toText
  have hrun : runRequest s (.importScript input name (some path)) d
      = ({ err := "Imported " ++ Nat.repr (Table.ofDefs (Script.parse script) s.ids).1.length
          ++ " tables into " ++ path ++ "\n" },
        (s.files.write path (Project.ofSchema (name.getD ((stem? input).getD untitled)) s.now
          ⟨(Table.ofDefs (Script.parse script) s.ids).1⟩).toText (s.files.read input d).2).2) := by
    simp only [runRequest, bind, StateT.bind]
    rw [readScript_eq hscript htables]
    simp only [saveOutput, bind, StateT.bind]
    rw [save_eq hpath hwrite]
    rfl
  rw [hrun]
  exact ⟨rfl, hread⟩

/-- What is generated from a project in a file is the script of its tables. -/
lemma runRequest_generate {dialect : Dialect} {header : Bool} {p : Project}
    (hpath : isProjectFile path = true) (hread : (s.files.read path d).1 = .ok p.toText)
    (hproject : Project.ofText s.now p.toText = pure p) :
    (runRequest s (.generate path dialect none header) d).1
      = { out := Script.render p.toSchema.tables dialect { header } s.now } := by
  simp only [runRequest, bind, StateT.bind]
  rw [readProject_eq hpath hread hproject]
  rfl

/-- A script is imported into a project file, and a script is generated from that file later on. If
the files keep what is written to them, and so do the texts of the places and of the time, the
second run prints what the tables of the first script are written as at once, in any dialect and
under any name of the project. It does so whatever the script holds, as long as it defines a table,
has no blank names and none of the new identities in it. -/
theorem run_generate_run_import {files : FileAccess (StateM σ)}
    {now later time : Timestamp} {ids ids' anyIds : IdSupply} {dialect : Dialect}
    {name : Option String} {importing generating : List String}
    (himporting : Request.ofArguments? importing = some (.importScript input name (some path)))
    (hgenerating : Request.ofArguments? generating = some (.generate path dialect none false))
    (hpath : isProjectFile path = true) (hscript : (files.read input d).1 = .ok script)
    (hkeeps : files.Keeps (files.read input d).2 path)
    (hplaces : ∀ i < (Script.parse script).length, (Position.grid i).IsReadBack)
    (htime : Timestamp.ofText now.text = .ok now)
    (htables : Script.parse script ≠ []) (hnames : Script.HasSolidNames script)
    (hids : Script.HasNoIdentity script ids) :
    (run ⟨files, now, ids⟩ importing d).1.code = 0
      ∧ (run ⟨files, later, ids'⟩ generating (run ⟨files, now, ids⟩ importing d).2).1
        = { out := Script.reexport script anyIds dialect { header := false } time } := by
  obtain ⟨hcode, hsaved⟩ := runRequest_importScript (s := ⟨files, now, ids⟩) name hpath hscript
    htables hkeeps
  obtain ⟨hproject, hschema⟩ := Project.ofText_imported (name.getD ((stem? input).getD untitled))
    later hnames hids hplaces htime
  rw [run_eq himporting, run_eq hgenerating]
  refine ⟨hcode, ?_⟩
  rw [runRequest_generate (s := ⟨files, later, ids'⟩) hpath hsaved hproject, hschema]
  exact congrArg (fun text => ({ out := text } : Outcome))
    (Script.reexport_eq script ids anyIds dialect later time)

/-- A script with an unknown type, a default in parentheses and a reference to no table. -/
def danglingScript : String :=
  "CREATE TABLE orders (id SERIAL, total money (10, 2) DEFAULT (round(2, 1)),
   \"user id\" INT REFERENCES app.users (id));"

/-- The one table of the script. -/
def danglingDef : TableDef where
  name := "orders"
  columns :=
    [{ name := "id", type := .int, autoIncrement := true },
     { name := "total", type := .other "MONEY", size := some "10,2"
       defaultValue := some "(round(2,1))" },
     { name := "user id", type := .int, reference := some ⟨"users", "id"⟩ }]

lemma tokenize_danglingScript : Script.tokenize danglingScript =
    [.keyword .create, .keyword .table, .ident "orders", .lparen, .ident "id", .ident "SERIAL",
     .comma, .ident "total", .ident "money", .lparen, .num "10", .comma, .num "2", .rparen,
     .keyword .default, .lparen, .ident "round", .lparen, .num "2", .comma, .num "1", .rparen,
     .rparen, .comma, .ident "user id", .ident "INT", .keyword .references, .ident "app", .dot,
     .ident "users", .lparen, .ident "id", .rparen, .rparen, .semicolon] := by
  decide +kernel

lemma parse_danglingScript : Script.parse danglingScript = [danglingDef] := by
  rw [Script.parse, tokenize_danglingScript]
  decide +kernel

/-- The directory with the script. -/
def scriptDirectory : Directory :=
  Directory.put {} ["shop.sql"] danglingScript.toUTF8

lemma leadsToFile_scriptDirectory : scriptDirectory.LeadsToFile "shop.sf" ["shop.sf"] :=
  ⟨⟨.inside [], by decide, by decide⟩, by decide, by decide⟩

lemma read_scriptDirectory : Directory.access.read "shop.sql" scriptDirectory
    = (.ok danglingScript, scriptDirectory) := by
  have hleads : Directory.LeadsToFile {} "shop.sql" ["shop.sql"] :=
    ⟨⟨.inside [], by decide, by decide⟩, by decide, by decide⟩
  rw [Directory.read_access, scriptDirectory, hleads.read_put danglingScript]

/-- The reference, the type and the default are written as they would be at once. -/
theorem run_generate_danglingScript :
    (run ⟨Directory.access, .epoch, ⟨0⟩⟩
        ["import", "shop.sql", "--name", "Shop", "-o", "shop.sf"] scriptDirectory).1.code = 0
      ∧ (run ⟨Directory.access, ⟨5, 0⟩, ⟨7⟩⟩
          ["generate", "shop.sf", "--dialect=postgresql", "--no-header"]
          (run ⟨Directory.access, .epoch, ⟨0⟩⟩
            ["import", "shop.sql", "--name", "Shop", "-o", "shop.sf"] scriptDirectory).2).1
        = { out := "CREATE TABLE \"orders\" (\n  \"id\" INT,\n"
          ++ "  \"total\" MONEY(10,2) DEFAULT (round(2,1)),\n  \"user id\" INT,\n"
          ++ "  FOREIGN KEY (\"user id\") REFERENCES \"users\"(\"id\")\n);\n"
          ++ "CREATE INDEX \"idx_orders_user id\" ON \"orders\"(\"user id\");\n" } := by
  have himporting : Request.ofArguments?
      ["import", "shop.sql", "--name", "Shop", "-o", "shop.sf"]
        = some (.importScript "shop.sql" (some "Shop") (some "shop.sf")) := by decide
  have hgenerating : Request.ofArguments?
      ["generate", "shop.sf", "--dialect=postgresql", "--no-header"]
        = some (.generate "shop.sf" .postgreSql none false) := by decide
  have hscript : (Directory.access.read "shop.sql" scriptDirectory).1 = .ok danglingScript := by
    rw [read_scriptDirectory]
  have hkeeps : Directory.access.Keeps (Directory.access.read "shop.sql" scriptDirectory).2
      "shop.sf" := by
    rw [read_scriptDirectory]
    exact leadsToFile_scriptDirectory.keeps_access
  have hplaces : ∀ i < (Script.parse danglingScript).length, (Position.grid i).IsReadBack := by
    rw [parse_danglingScript]
    decide +kernel
  have htables : Script.parse danglingScript ≠ [] := by
    rw [parse_danglingScript]
    exact List.cons_ne_nil _ _
  have hnames : Script.HasSolidNames danglingScript := by
    rw [Script.HasSolidNames.iff_isSolid, tokenize_danglingScript]
    decide
  have hids : Script.HasNoIdentity danglingScript ⟨0⟩ := by
    rw [Script.HasNoIdentity, parse_danglingScript]
    decide +kernel
  have htext : Script.reexport danglingScript ⟨0⟩ .postgreSql { header := false } .epoch
      = "CREATE TABLE \"orders\" (\n  \"id\" INT,\n"
        ++ "  \"total\" MONEY(10,2) DEFAULT (round(2,1)),\n  \"user id\" INT,\n"
        ++ "  FOREIGN KEY (\"user id\") REFERENCES \"users\"(\"id\")\n);\n"
        ++ "CREATE INDEX \"idx_orders_user id\" ON \"orders\"(\"user id\");\n" := by
    rw [Script.reexport, parse_danglingScript]
    decide +kernel
  rw [← htext]
  exact run_generate_run_import himporting hgenerating (by decide) hscript hkeeps hplaces
    (by decide) htables hnames hids

end CommandLine

end SchemaDesigner
