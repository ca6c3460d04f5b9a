/-
Projects in documents: what is read is in a normal form, and the normal form is read back.

* `Project.IsStorable`: the columns are storable, the entries are in order and the edges follow from
  the tables;
* `Project.ensures_read`: each project that is read is storable, whichever shape its record has;
* `Project.IsPlaceable`: all places are read back as numbers;
* `Project.read_toJson`: a storable project is read back from its record, at any time, if its own
  time is read back.
-/
import SchemaDesigner.Proofs.Project.Entries
import SchemaDesigner.Proofs.Wire.Table
import SchemaDesigner.Wire.Project

namespace SchemaDesigner

open Json (Document Items Members IsWritable)

/-! ### Nodes -/

namespace NodeFields

/-- The table is storable, if it was read. -/
def IsSound (s : NodeFields) : Prop :=
  ∀ t ∈ s.data, t.IsStorable

/-- Each field of a node keeps what was read sound: only the table has something to be kept. -/
lemma ensures_fill :
    ∀ slot ∈ form.slots, ∀ d s, IsSound s → Read.Ensures (slot.fill d s) IsSound := by
  intro slot hslot d s hs
  simp only [form, List.mem_cons, List.not_mem_nil, or_false] at hslot
  rcases hslot with rfl | rfl | rfl | rfl
  case inr.inr.inr =>
    exact .bind (Table.ensures_read .text d) fun t ht => .pure fun _ h => Option.some.inj h ▸ ht
  all_goals exact .after fun _ => .pure hs

/-- The table that was read is the one that the node gets. -/
lemma ensures_finish (missing : String → ReadError) (s : NodeFields) (hs : s.IsSound) :
    Read.Ensures (form.finish missing s) fun n => n.data.IsStorable :=
  .after fun _ => .bind (ensures_required hs) fun _ ht => .pure ht

end NodeFields

namespace Node

/-- Each node that is read has a storable table. -/
lemma ensures_read (d : Document) : Read.Ensures (Node.read d) fun n => n.data.IsStorable :=
  RecordForm.ensures_read .text (fun _ h => nomatch h) NodeFields.ensures_fill
    NodeFields.ensures_finish d

variable {n : Node}

/-- A node is read back from its record if its table is. -/
lemma read_toJson (h : n.data.IsStorable) : Node.read (.ofJson n.toJson) = pure n := by
  refine RecordForm.readMembers_eq
    (s := ⟨some n.id, some n.kind, some n.position, some n.data⟩) ?_ rfl
  refine Eq.trans (fillByName_member rfl rfl rfl _) ?_
  refine Eq.trans (fillByName_member rfl rfl rfl _) ?_
  refine Eq.trans (fillByName_member rfl rfl rfl _) ?_
  exact fillByName_member rfl rfl (fill_eq_pure (Table.read_toJson .text h) _) _

/-- Both places of the node are read back. -/
def IsPlaceable (n : Node) : Prop :=
  n.position.IsReadBack ∧ n.data.position.IsReadBack

/-- The record of a node is written if both of its places are. -/
lemma isWritable_toJson (k : ℕ) (h : n.IsPlaceable) : IsWritable (k + 4) n.toJson := by
  refine .object ?_
  simp only [List.forall_mem_cons]
  exact ⟨.string _ _, .string _ _, n.position.isWritable_toJson _ h.1,
    n.data.isWritable_toJson _ h.2, fun _ h => nomatch h⟩

end Node

/-- The record of an edge has texts and a flag only, so that it is always written. -/
lemma Edge.isWritable_toJson (k : ℕ) (e : Edge) : IsWritable (k + 1) e.toJson := by
  refine .object ?_
  simp [Relationship.members, IsWritable.string, IsWritable.bool]

/-! ### Projects -/

namespace ProjectFields

/-- The tables of the nodes and of the entries are storable, as far as they were read. -/
structure IsSound (s : ProjectFields) : Prop where
  nodes : ∀ ns ∈ s.nodes, ∀ n ∈ ns, n.data.IsStorable
  entries : ∀ es ∈ s.entries, ∀ e ∈ es, e.2.IsStorable

/-- The fields with nodes and with entries read storable tables, and the others none. -/
lemma ensures_fill (now : Timestamp) :
    ∀ slot ∈ (form now).slots, ∀ d s, IsSound s → Read.Ensures (slot.fill d s) IsSound := by
  intro slot hslot d s hs
  simp only [form, List.mem_cons, List.not_mem_nil, or_false] at hslot
  rcases hslot with rfl | rfl | rfl | rfl | rfl
  case inr.inl =>
    exact .bind (Read.ensures_list Node.ensures_read d) fun ns hns =>
      .pure ⟨fun _ h => Option.some.inj h ▸ hns, hs.entries⟩
  case inr.inr.inl =>
    exact .bind (Read.ensures_map (Table.ensures_read .text) d) fun es hes =>
      .pure ⟨hs.nodes, fun _ h => Option.some.inj h ▸ hes⟩
  all_goals exact .after fun _ => .pure ⟨hs.nodes, hs.entries⟩

end ProjectFields

namespace Project

/-- The project is in the form in which reading leaves one. -/
structure IsStorable (p : Project) : Prop where
  nodes : ∀ n ∈ p.nodes, n.data.IsStorable
  entries : ∀ e ∈ p.entries, e.2.IsStorable
  sorted : SortedByKey p.entries
  edges : p.withEdges = p

/-- What makes the fields up to a project sorts the entries and draws the edges anew. -/
lemma ensures_finish (now : Timestamp) (missing : String → ReadError) (s : ProjectFields)
    (hs : s.IsSound) : Read.Ensures ((ProjectFields.form now).finish missing s) IsStorable := by
  have hnodes : ∀ n ∈ s.nodes.getD [], n.data.IsStorable := by
    cases hn : s.nodes with
    | none => exact fun _ h => nomatch h
    | some ns => exact hs.nodes ns hn
  have hentries : ∀ e ∈ s.entries.getD [], e.2.IsStorable := by
    cases he : s.entries with
    | none => exact fun _ h => nomatch h
    | some es => exact hs.entries es he
  exact .after fun _ => .pure ⟨hnodes, fun e he => hentries e (mem_of_mem_sortedEntries he),
    sortedByKey_sortedEntries _, rfl⟩

/-- Each project that is read is storable, whichever shape its record has. -/
theorem ensures_read (now : Timestamp) (d : Document) :
    Read.Ensures (Project.read now d) IsStorable :=
  RecordForm.ensures_read .text ⟨fun _ h => (nomatch h), fun _ h => (nomatch h)⟩
    (ProjectFields.ensures_fill now) (ensures_finish now) d

variable {p : Project}

/-- A time is read from the text that it is read back from. -/
lemma read_timestamp {text : String} {t : Timestamp} (h : Timestamp.ofText text = .ok t) :
    Timestamp.read (.ofJson (.string text)) = pure t := by
  simp only [Document.ofJson, Timestamp.read, Read.textAs, pure_bind, h]

/-- A storable project is read back from its record, at any time, if its own time is read back. -/
theorem read_toJson (now : Timestamp) (h : p.IsStorable)
    (htime : Timestamp.ofText p.timestamp.text = .ok p.timestamp) :
    Project.read now (.ofJson p.toJson) = pure p := by
  have hnodes := Read.list_ofJson fun n hn => Node.read_toJson (h.nodes n hn)
  have hentries := Read.map_ofJson fun e he => Table.read_toJson .text (h.entries e he)
  rw [toJson]
  generalize p.timestamp.text = text at htime
  refine RecordForm.readMembers_eq (s := ⟨some p.name, some p.nodes, some p.entries,
    some p.timestamp, some p.version⟩) ?_ ?_
  · refine Eq.trans (fillByName_member rfl rfl rfl _) ?_
    refine Eq.trans (fillByName_member rfl rfl (fill_eq_pure hnodes _) _) ?_
    refine Eq.trans (fillByName_unknown rfl (Document.skipFault?_ofJson _) _ _) ?_
    refine Eq.trans (fillByName_member rfl rfl (fill_eq_pure hentries _) _) ?_
    refine Eq.trans (fillByName_member rfl rfl (fill_eq_pure (read_timestamp htime) _) _) ?_
    exact fillByName_member rfl rfl rfl _
  · have hp : withEdges { p with edges := [], entries := sortedEntries p.entries } = p := by
      rw [h.sorted.sortedEntries_eq]
      exact h.edges
    change (pure (withEdges _) : Read Project) = pure p
    exact congrArg pure hp

/-- All places of the project are read back. -/
structure IsPlaceable (p : Project) : Prop where
  nodes : ∀ n ∈ p.nodes, n.IsPlaceable
  entries : ∀ e ∈ p.entries, e.2.position.IsReadBack

/-- The record of a project is written if all places in it are. -/
lemma isWritable_toJson (h : p.IsPlaceable) : IsWritable 6 p.toJson := by
  have hnodes : IsWritable 5 (.array (p.nodes.map Node.toJson)) :=
    .array (List.forall_mem_map.mpr fun n hn => n.isWritable_toJson 0 (h.nodes n hn))
  have hedges : IsWritable 5 (.array (p.edges.map Edge.toJson)) :=
    .array (List.forall_mem_map.mpr fun e _ => e.isWritable_toJson 3)
  have hentries : IsWritable 5 (.object (p.entries.map fun e => (e.1, e.2.toJson))) :=
    .object (List.forall_mem_map.mpr fun e he => e.2.isWritable_toJson 1 (h.entries e he))
  refine .object ?_
  simp only [List.forall_mem_cons]
  exact ⟨.string _ _, hnodes, hedges, hentries, .string _ _, .string _ _, fun _ h => nomatch h⟩

end Project

end SchemaDesigner
