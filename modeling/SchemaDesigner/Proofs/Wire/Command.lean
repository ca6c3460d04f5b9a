/-
Commands in documents: what is read brings in storable columns, and such commands are read back.

* `Command.IsStorable`, `Command.ensures_read`: a column that comes with a command is storable;
* `Command.IsPlaceable`: a place that comes with a command is read back;
* `Command.splitKind_ofJson`: the kind of a written command is found in front of its fields;
* `Command.read_toJson`: a command with storable columns is read back from its record.
-/
import SchemaDesigner.Proofs.Wire.Table
import SchemaDesigner.Wire.Command

namespace SchemaDesigner

open Json (Document Items Members IsWritable)

/-! ### What is read is storable -/

/-- A column that comes with the command is in the form in which reading leaves it. -/
def Command.IsStorable : Command → Prop
  | addColumn _ column | updateColumn _ _ column => column.IsStorable
  | _ => True

namespace CommandFields

/-- The columns are storable, as far as they were read. -/
structure IsSound (s : CommandFields) : Prop where
  newColumn : ∀ c ∈ s.newColumn, c.IsStorable
  replacement : ∀ c ∈ s.replacement, c.IsStorable

/-- The columns stay sound when the field is read. -/
def Keeps (slot : Slot CommandFields) : Prop :=
  ∀ d s, IsSound s → Read.Ensures (slot.fill d s) IsSound

lemma keeps_newColumnSlot : Keeps newColumnSlot := fun d _ hs =>
  .bind (Column.ensures_read .buffer d) fun _ hc =>
    .pure ⟨fun _ h => Option.some.inj h ▸ hc, hs.replacement⟩

lemma keeps_replacementSlot : Keeps replacementSlot := fun d _ hs =>
  .bind (Column.ensures_read .buffer d) fun _ hc =>
    .pure ⟨hs.newColumn, fun _ h => Option.some.inj h ▸ hc⟩

/-- A field that brings in no column changes none. -/
lemma keeps_plain {slot : Slot CommandFields}
    (h : slot ∈ [tableSlot, nameSlot, positionSlot, commentSlot, columnSlot, targetTableSlot,
      targetColumnSlot]) : Keeps slot := by
  intro d s hs
  simp only [List.mem_cons, List.not_mem_nil, or_false] at h
  rcases h with rfl | rfl | rfl | rfl | rfl | rfl | rfl
  all_goals exact .after fun _ => .pure ⟨hs.newColumn, hs.replacement⟩

/-- No field of a command makes its columns unsound. -/
lemma keeps_of_mem_slots (kind : CommandKind) : ∀ slot ∈ kind.slots, Keeps slot := by
  intro slot h
  cases kind
  case addColumn =>
    obtain rfl | h := List.mem_cons.mp h
    · exact keeps_plain List.mem_cons_self
    · exact List.mem_singleton.mp h ▸ keeps_newColumnSlot
  case updateColumn =>
    simp only [CommandKind.slots, List.mem_cons, List.not_mem_nil, or_false] at h
    rcases h with rfl | rfl | rfl
    · exact keeps_plain (by simp)
    · exact keeps_plain (by simp)
    · exact keeps_replacementSlot
  all_goals
    refine keeps_plain ?_
    simp only [CommandKind.slots, List.mem_cons, List.not_mem_nil, or_false] at h ⊢
    tauto

/-- The command that sound fields make up is storable. -/
lemma ensures_finish (kind : CommandKind) (missing : String → ReadError) (s : CommandFields)
    (hs : s.IsSound) : Read.Ensures (kind.finish missing s) Command.IsStorable := by
  cases kind
  case addColumn =>
    exact .after fun _ => .bind (ensures_required hs.newColumn) fun _ hc => .pure hc
  case updateColumn =>
    exact .after fun _ => .after fun _ => .bind (ensures_required hs.replacement) fun _ hc =>
      .pure hc
  case addTable | deleteTable | setComment => exact .after fun _ => .pure trivial
  case setForeignKey | connect =>
    exact .after fun _ => .after fun _ => .after fun _ => .after fun _ => .pure trivial
  all_goals exact .after fun _ => .after fun _ => .pure trivial

end CommandFields

namespace Command

/-- Whatever columns are read with a command are storable. -/
theorem ensures_read (d : Document) : Read.Ensures (Command.read d) Command.IsStorable := by
  have hstart : CommandFields.IsSound {} := ⟨fun _ h => (nomatch h), fun _ h => (nomatch h)⟩
  rw [Command.read.eq_def]
  split
  · exact .after fun p => p.1.form.ensures_readMembers hstart
      (CommandFields.keeps_of_mem_slots _) (CommandFields.ensures_finish _) _
  · exact .throw _
  · exact .throw _
  · exact .after fun kind => .after fun _ => kind.form.ensures_readItems .buffer hstart
      (CommandFields.keeps_of_mem_slots _) (CommandFields.ensures_finish _) _
  · exact .throw _

/-! ### What is storable is read back -/

/-- The fields behind the kind are kept as they are. -/
lemma splitKind_ofJson (kind : CommandKind) {ms : List (String × Json)}
    (h : ∀ m ∈ ms, m.1 ≠ kindField) :
    splitKind (some kind) (Members.ofJson ms) = pure (kind, Members.ofJson ms) := by
  induction ms with
  | nil => rfl
  | cons m ms ih =>
    obtain ⟨hkey, hms⟩ := List.forall_mem_cons.mp h
    rw [Members.ofJson, splitKind, if_neg hkey, Document.keepFault?_ofJson, ih hms]
    rfl

/-- None of the fields of a command has the name under which its kind stands. -/
lemma key_ne_kindField (c : Command) : ∀ m ∈ c.fieldsJson, m.1 ≠ kindField := by
  cases c <;> simp [fieldsJson, kindField]

lemma read_kind (c : Command) :
    CommandKind.read (.ofJson (.string c.kind.name)) = pure c.kind := by
  cases c <;> rfl

/-- From the document of a command its fields are read by the form of its kind. -/
lemma read_toJson_eq (c : Command) : Command.read (.ofJson c.toJson)
    = c.kind.form.readMembers (Members.ofJson c.fieldsJson) := by
  have hsplit : splitKind none (Members.ofJson ((kindField, .string c.kind.name) :: c.fieldsJson))
      = pure (c.kind, Members.ofJson c.fieldsJson) := by
    rw [Members.ofJson, splitKind, if_pos rfl, read_kind]
    exact splitKind_ofJson c.kind c.key_ne_kindField
  rw [toJson, Document.ofJson, Command.read, hsplit, pure_bind]

/-- A command with storable columns is read back from its record. -/
theorem read_toJson {c : Command} (h : c.IsStorable) :
    Command.read (.ofJson c.toJson) = pure c := by
  rw [read_toJson_eq]
  cases c
  case addColumn table column =>
    refine RecordForm.readMembers_eq (s := { table := some table, newColumn := some column }) ?_ rfl
    refine Eq.trans (fillByName_member rfl rfl rfl _) ?_
    exact fillByName_member rfl rfl (fill_eq_pure (Column.read_toJson .buffer h) _) _
  case updateColumn table name column =>
    refine RecordForm.readMembers_eq
      (s := { table := some table, column := some name, replacement := some column }) ?_ rfl
    refine Eq.trans (fillByName_member rfl rfl rfl _) ?_
    refine Eq.trans (fillByName_member rfl rfl rfl _) ?_
    exact fillByName_member rfl rfl (fill_eq_pure (Column.read_toJson .buffer h) _) _
  case setComment table comment => cases comment <;> rfl
  all_goals rfl

/-- The place that comes with the command is read back. -/
def IsPlaceable : Command → Prop
  | moveTable _ position => position.IsReadBack
  | _ => True

lemma isWritable_toJson {c : Command} (h : c.IsPlaceable) : IsWritable 2 c.toJson := by
  refine .object (List.forall_mem_cons.mpr ⟨.string _ _, ?_⟩)
  cases c
  case moveTable table position =>
    simp only [fieldsJson, List.forall_mem_cons]
    exact ⟨.string _ _, position.isWritable_toJson 0 h, fun _ h => nomatch h⟩
  case setComment table comment =>
    simp only [fieldsJson, List.forall_mem_cons]
    exact ⟨.string _ _, .ofText? _ _, fun _ h => nomatch h⟩
  case addColumn table column =>
    simp only [fieldsJson, List.forall_mem_cons]
    exact ⟨.string _ _, column.isWritable_toJson 0, fun _ h => nomatch h⟩
  case updateColumn table name column =>
    simp only [fieldsJson, List.forall_mem_cons]
    exact ⟨.string _ _, .string _ _, column.isWritable_toJson 0, fun _ h => nomatch h⟩
  all_goals simp [fieldsJson, IsWritable.string]

end Command

end SchemaDesigner
