/-
Columns that refer to themselves: the gate lets none pass, but it sees the columns as they were.

* `Column.RefersToItself`: the reference of a column names its own table and its own name;
* `Command.TurnsOnItself`: a column is renamed and made to refer to the name that it has had;
* `Replaces.forall_not_refersTo_iff`: such a reference follows the column and comes to name it;
* `Schema.not_refersToItself_run_iff`: the schemas built from nothing have no column that refers to
  itself, all along, if and only if no accepted command is of that kind.
-/
import SchemaDesigner.Proofs.Schema.OutlineChange

namespace SchemaDesigner

/-- The reference of the column of a table names that table and that column. -/
def Column.RefersToItself (t : Table) (c : Column) : Prop :=
  ∃ r ∈ c.reference, r.names t.name c.name = true

instance (t : Table) (c : Column) : Decidable (c.RefersToItself t) :=
  inferInstanceAs (Decidable (∃ r ∈ c.reference, r.names t.name c.name = true))

/-- The command gives a column another name and lets it refer to the one that it has had. -/
def Command.TurnsOnItself (s : Schema) (command : Command) : Prop :=
  command.ReplacesWith s fun t name replacement =>
    namesMatch name (Text.trim replacement.name) = false
      ∧ ∃ r ∈ replacement.reference, r.names t.name name = true

instance (s : Schema) (command : Command) : Decidable (command.TurnsOnItself s) :=
  inferInstanceAs (Decidable (command.ReplacesWith s _))

/-! ### Through a change -/

section Change

variable {f : Outline → Outline} {before after : List Outline} {current new : Outline}

lemma Outline.IsAdmitted.not_refersTo (h : new.IsAdmitted before) : ¬new.RefersTo new := by
  rintro ⟨r, hr, hnames⟩
  obtain ⟨q, -, hq, hne, -⟩ := h r hr
  exact hne (Reference.sameNames hq hnames)

lemma StemsFrom.forall_not_refersTo {origin : Outline → Outline → Prop}
    (h : StemsFrom origin before after) (hbefore : ∀ p ∈ before, ¬p.RefersTo p) :
    ∀ p ∈ after, ¬p.RefersTo p := by
  intro p hp hself
  obtain ⟨q, hq, hpq⟩ := h.exists_origin p hp
  exact hbefore q hq (h.refersTo p p q q hpq hpq hself)

lemma Adds.forall_not_refersTo (h : Adds new before after)
    (hbefore : ∀ p ∈ before, ¬p.RefersTo p) : ∀ p ∈ after, ¬p.RefersTo p := by
  intro p hp
  rcases h.shown p hp with rfl | hp
  · exact h.admitted.not_refersTo
  · exact hbefore p hp

/-- A column that takes the place of another one refers to itself in the end if it referred to that
one, since its reference follows. -/
lemma Replaces.forall_not_refersTo_iff (h : Replaces f current new before after)
    (hbefore : ∀ p ∈ before, ¬p.RefersTo p) :
    (∀ p ∈ after, ¬p.RefersTo p) ↔ ¬new.RefersTo current := by
  constructor
  · intro hafter hself
    exact hafter _ ((h.shown _).mpr (.inl rfl)) ((h.refersTo_new new (.inl rfl)).mpr hself)
  · intro hnew p hp hself
    rcases (h.shown p).mp hp with rfl | ⟨q, hq, hne, rfl⟩
    · exact hnew ((h.refersTo_new new (.inl rfl)).mp hself)
    · exact hbefore q hq ((h.refersTo_old q (.inr hq) q hq hne).mp hself)

/-- Under the old name the gate is to the point. -/
lemma Replaces.not_refersTo_of_sameNames (h : Replaces f current new before after)
    (hbefore : ∀ p ∈ before, ¬p.RefersTo p) (hnames : new.SameNames current) :
    ¬new.RefersTo current := by
  rintro ⟨r, hr, hrcurrent⟩
  rcases h.admitted with ⟨hsame, -⟩ | hadmitted
  · exact hbefore current h.mem ⟨r, hsame ▸ hr, hrcurrent⟩
  · exact hadmitted.not_refersTo ⟨r, hr, Reference.names_of_sameNames hrcurrent hnames.symm⟩

/-- An accepted change leaves all columns without a reference to themselves unless it turns one on
itself. -/
lemma OutlineChange.forall_not_refersTo_iff {s s' : Schema} {command : Command}
    (h : OutlineChange s s' command) (hw : s.WellFormed)
    (hbefore : ∀ p ∈ outlines s.tables, ¬p.RefersTo p) :
    (∀ p ∈ outlines s'.tables, ¬p.RefersTo p) ↔ ¬command.TurnsOnItself s := by
  cases h with
  | stems hother h =>
    exact iff_of_true (h.forall_not_refersTo hbefore) fun h => hother h.replacesColumn
  | adds hother h =>
    exact iff_of_true (h.forall_not_refersTo hbefore) fun h => hother h.replacesColumn
  | refers hother h hnames _ _ =>
    rw [h.forall_not_refersTo_iff hbefore]
    exact iff_of_true (h.not_refersTo_of_sameNames hbefore hnames) fun h => hother h.replacesColumn
  | @replaces t id name current replacement f ht hid hcurrent hname h =>
    rw [h.forall_not_refersTo_iff hbefore, not_iff_not, Command.TurnsOnItself,
      Command.replacesWith_updateColumn hw ht hid]
    constructor
    · rintro ⟨r, hr, hnames⟩
      refine ⟨?_, r, hr, Reference.names_congr hname ▸ hnames⟩
      rw [← Bool.not_eq_true]
      exact fun hmatch => h.not_refersTo_of_sameNames hbefore
        ⟨namesMatch_refl _, namesMatch_symm (namesMatch_trans hname hmatch)⟩ ⟨r, hr, hnames⟩
    · rintro ⟨-, r, hr, hnames⟩
      exact ⟨r, hr, (Reference.names_congr hname).trans hnames⟩

end Change

/-! ### Along a sequence of commands -/

namespace Schema

/-- Whatever commands are run on the empty schema, no column refers to itself at any time, if and
only if no accepted command renames a column and lets it refer to its old name. -/
theorem not_refersToItself_run_iff {commands : List (TableId × Command)}
    (hfresh : empty.DrawsFresh commands) :
    (∀ n, ∀ t ∈ (empty.run (commands.take n)).tables, ∀ c ∈ t.columns, ¬c.RefersToItself t)
      ↔ ∀ change ∈ empty.accepted commands, ¬change.2.TurnsOnItself change.1 := by
  refine OutlineChange.forall_run_empty_iff
    (P := fun s => ∀ t ∈ s.tables, ∀ c ∈ t.columns, ¬c.RefersToItself t)
    (fun _ ht => absurd ht List.not_mem_nil) ?_ hfresh
  intro s s' command hw _ _ _ hbefore h
  have hiff := h.forall_not_refersTo_iff hw (forall_outlines.mpr hbefore)
  rwa [forall_outlines] at hiff

/-- A run in which a primary key gets another name, which the references to it follow. -/
def renamingCommands : List (TableId × Command) :=
  sampleCommands ++ [
    (⟨"8"⟩, .updateColumn ⟨"1"⟩ "ID"
      { name := "key", type := .int, primaryKey := true, id := ⟨"c"⟩ }),
    (⟨"9"⟩, .addColumn ⟨"1"⟩
      { name := "boss", type := .int, reference := some ⟨"users", "KEY"⟩, id := ⟨"d"⟩ })]

/-- References to the table itself are made, and none of a column to itself. -/
theorem not_refersToItself_renamingCommands : empty.DrawsFresh renamingCommands
    ∧ (∀ change ∈ empty.accepted renamingCommands, ¬change.2.TurnsOnItself change.1)
    ∧ ∀ n, ∀ t ∈ (empty.run (renamingCommands.take n)).tables, ∀ c ∈ t.columns,
      ¬c.RefersToItself t :=
  have hfresh : empty.DrawsFresh renamingCommands := drawsFresh_of_nodup (by decide)
  have hturns : ∀ change ∈ empty.accepted renamingCommands, ¬change.2.TurnsOnItself change.1 := by
    decide
  ⟨hfresh, hturns, (not_refersToItself_run_iff hfresh).mpr hturns⟩

/-- A run in which a primary key gets another name and a reference to its old one at once. -/
def turningCommands : List (TableId × Command) :=
  [(⟨"1"⟩, .addTable "t"),
    (⟨"2"⟩, .addColumn ⟨"1"⟩ { name := "id", type := .int, primaryKey := true, id := ⟨"a"⟩ }),
    (⟨"3"⟩, .updateColumn ⟨"1"⟩ "id"
      { name := "key", type := .int, primaryKey := true, reference := some ⟨"t", "id"⟩,
        id := ⟨"a"⟩ })]

/-- The gate finds the old column, which is another one by its name, and then the reference follows
the renamed column. -/
theorem refersToItself_turningCommands : empty.DrawsFresh turningCommands
    ∧ ∃ t ∈ (empty.run turningCommands).tables, ∃ c ∈ t.columns, c.RefersToItself t :=
  ⟨drawsFresh_of_nodup (by decide), by decide⟩

end Schema

end SchemaDesigner
