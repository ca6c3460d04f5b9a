/-
What was read stays as it is when it is written and read again.

* `IsRereadBy`: each written form of a value is read as the value, and no identity is drawn;
* `reread_ofText`: so is each column, table, command and project that was read from a text, with the
  identities that it got then.

Numbers and points of time have to be read back as they are written. This is assumed of the places
and of the time that were read.
-/
import SchemaDesigner.Proofs.Wire.Command
import SchemaDesigner.Proofs.Wire.Project

namespace SchemaDesigner

open Json (Document IsWritable IsWrittenAs)

/-- Each written form of the value is read as the value, and no identity is drawn. -/
def IsRereadBy {α : Type} (read : String → Read α) (toJson : α → Json) (a : α) : Prop :=
  ∀ text, IsWrittenAs (toJson a) text → ∀ ids, read text ids = .ok (a, ids)

section

variable {α : Type} {read : Document → Read α} {toJson : α → Json} {a : α} {n : ℕ}

/-- A writable value whose document is read back is read back from both of its texts. -/
lemma isRereadBy_ofText (hwritable : IsWritable n (toJson a)) (hn : n ≤ Json.greatestDepth)
    (hread : read (.ofJson (toJson a)) = pure a) : IsRereadBy (Read.ofText read) toJson a := by
  intro text htext ids
  rw [Read.ofText_of_isWrittenAs hwritable hn htext, hread]
  rfl

end

/-- Whatever shape a text has in which a column, a table, a command or a project is read from it:
the value is read again from each of its written forms, whatever identities are new then and however
late it is. -/
theorem reread_ofText (now later : Timestamp) :
    (∀ s ids c ids', Read.ofText (Column.read .text) s ids = .ok (c, ids') →
      IsRereadBy (Read.ofText (Column.read .text)) Column.toJson c)
    ∧ (∀ s ids t ids', Read.ofText (Table.read .text) s ids = .ok (t, ids') →
      t.position.IsReadBack → IsRereadBy (Read.ofText (Table.read .text)) Table.toJson t)
    ∧ (∀ s ids c ids', Command.ofText s ids = .ok (c, ids') →
      c.IsPlaceable → IsRereadBy Command.ofText Command.toJson c)
    ∧ (∀ s ids p ids', Project.ofText now s ids = .ok (p, ids') → p.IsPlaceable →
      Timestamp.ofText p.timestamp.text = .ok p.timestamp →
      IsRereadBy (Project.ofText later) Project.toJson p) := by
  refine ⟨fun s ids c ids' h => ?column, fun s ids t ids' h hplace => ?table,
    fun s ids c ids' h hplace => ?command, fun s ids p ids' h hplace htime => ?project⟩
  case column =>
    have hc := Read.ensures_ofText (Column.ensures_read .text) s ids c ids' h
    exact isRereadBy_ofText (c.isWritable_toJson 0) (by decide) (Column.read_toJson .text hc)
  case table =>
    have ht := Read.ensures_ofText (Table.ensures_read .text) s ids t ids' h
    exact isRereadBy_ofText (t.isWritable_toJson 0 hplace) (by decide) (Table.read_toJson .text ht)
  case command =>
    have hc := Read.ensures_ofText Command.ensures_read s ids c ids' h
    exact isRereadBy_ofText (c.isWritable_toJson hplace) (by decide) (Command.read_toJson hc)
  case project =>
    have hp := Read.ensures_ofText (Project.ensures_read now) s ids p ids' h
    exact isRereadBy_ofText (p.isWritable_toJson hplace) (by decide)
      (Project.read_toJson later hp htime)

/-! ### An older column, table, command and project -/

/-- A column with a blank identity, size and default, and a reference that is an object. -/
def olderColumn : Json :=
  .object [("id", .string " "), ("name", .string "owner"), ("type", .string " integer "),
    ("length", .string " "), ("notNull", .bool true), ("defaultValue", .string "\t"),
    ("foreignKey", .object [("table", .string "users"), ("column", .string "id")])]

/-- A table without identity and place. -/
def olderTable : Json :=
  .object [("name", .string "items"), ("columns", .array [olderColumn])]

/-- A command with an older column, which tells its kind last. -/
def olderCommand : Json :=
  .object [("column", olderColumn), ("table", .string "1"), ("op", .string "addColumn")]

/-- A project with a single table and no time. -/
def olderProject : Json :=
  .object [("projectName", .string "shop"), ("schema", .object [("1", olderTable)])]

/-- The column that the older one is read as, with its new identity. -/
def olderColumnRead (id : ColumnId) : Column :=
  { name := "owner", type := .int, nullable := false, reference := some ⟨"users", "id"⟩, id }

/-- The table that the older one is read as, with its new identities. -/
def olderTableRead (id : TableId) (column : ColumnId) : Table :=
  { id, name := "items", columns := [olderColumnRead column] }

lemma isWritable_olderColumn (n : ℕ) : IsWritable (n + 2) olderColumn := by
  refine .object ?_
  simp only [List.forall_mem_cons]
  refine ⟨.string _ _, .string _ _, .string _ _, .string _ _, .bool _ _, .string _ _, .object ?_,
    fun _ h => nomatch h⟩
  simp [IsWritable.string]

lemma isWritable_olderTable (n : ℕ) : IsWritable (n + 4) olderTable := by
  refine .object ?_
  simp only [List.forall_mem_cons]
  exact ⟨.string _ _, .array (List.forall_mem_singleton.mpr (isWritable_olderColumn n)),
    fun _ h => nomatch h⟩

lemma isWritable_olderCommand : IsWritable 3 olderCommand := by
  refine .object ?_
  simp only [List.forall_mem_cons]
  exact ⟨isWritable_olderColumn 0, .string _ _, .string _ _, fun _ h => nomatch h⟩

lemma isWritable_olderProject : IsWritable 6 olderProject := by
  refine .object ?_
  simp only [List.forall_mem_cons]
  exact ⟨.string _ _, .object (List.forall_mem_singleton.mpr (isWritable_olderTable 0)),
    fun _ h => nomatch h⟩

/-- All of them are read again from their written forms as they were read at first. -/
theorem reread_older :
    (∃ c, Read.ofText (Column.read .text) olderColumn.pretty ⟨0⟩ = .ok (c, ⟨1⟩)
      ∧ IsRereadBy (Read.ofText (Column.read .text)) Column.toJson c)
    ∧ (∃ t, Read.ofText (Table.read .text) olderTable.pretty ⟨0⟩ = .ok (t, ⟨2⟩)
      ∧ IsRereadBy (Read.ofText (Table.read .text)) Table.toJson t)
    ∧ (∃ c, Command.ofText olderCommand.pretty ⟨0⟩ = .ok (c, ⟨1⟩)
      ∧ IsRereadBy Command.ofText Command.toJson c)
    ∧ (∃ p, Project.ofText .epoch olderProject.pretty ⟨0⟩ = .ok (p, ⟨2⟩)
      ∧ IsRereadBy (Project.ofText .epoch) Project.toJson p) := by
  obtain ⟨hcolumns, htables, hcommands, hprojects⟩ := reread_ofText .epoch .epoch
  have horigin : Position.origin.IsReadBack := by decide +kernel
  have hcolumn : Read.ofText (Column.read .text) olderColumn.pretty ⟨0⟩
      = .ok (olderColumnRead ⟨identityText 0⟩, ⟨1⟩) := by
    rw [Read.ofText_of_isWrittenAs (isWritable_olderColumn 0) (by decide) .pretty]
    rfl
  have htable : Read.ofText (Table.read .text) olderTable.pretty ⟨0⟩
      = .ok (olderTableRead ⟨identityText 1⟩ ⟨identityText 0⟩, ⟨2⟩) := by
    rw [Read.ofText_of_isWrittenAs (isWritable_olderTable 0) (by decide) .pretty]
    rfl
  have hcommand : Command.ofText olderCommand.pretty ⟨0⟩
      = .ok (.addColumn ⟨"1"⟩ (olderColumnRead ⟨identityText 0⟩), ⟨1⟩) := by
    rw [Command.ofText, Read.ofText_of_isWrittenAs isWritable_olderCommand (by decide) .pretty]
    rfl
  have hproject : Project.ofText .epoch olderProject.pretty ⟨0⟩ = .ok
      (⟨"shop", [], [], [("1", olderTableRead ⟨identityText 1⟩ ⟨identityText 0⟩)], .epoch, "1.0"⟩,
        ⟨2⟩) := by
    rw [Project.ofText, Read.ofText_of_isWrittenAs isWritable_olderProject (by decide) .pretty]
    rfl
  exact ⟨⟨_, hcolumn, hcolumns _ _ _ _ hcolumn⟩,
    ⟨_, htable, htables _ _ _ _ htable horigin⟩,
    ⟨_, hcommand, hcommands _ _ _ _ hcommand trivial⟩,
    ⟨_, hproject, hprojects _ _ _ _ hproject
      ⟨fun _ h => (nomatch h), List.forall_mem_singleton.mpr horigin⟩
      (by decide)⟩⟩

end SchemaDesigner
