/-
The two copies of the tables in a project: the nodes, whose identities count, and the entries, whose
keys do not.

* `Document.keyed`: the document of a project with its nodes turned into entries under their
  identities, each with the data as it stands;
* `Node.read_eq_ok`, `Read.members_keyed`, `Project.exists_read_keyed`: what is read of a node is
  read of its entry, and so for all nodes of a project;
* `resolveReferences_perm`: references by identity are resolved alike in any order of the tables;
* `Table.bare`, `Table.unplaced`: a table without its identity and references, and one without its
  place;
* `Project.keyed_agrees_iff`: the entries give the tables of the nodes if and only if each table
  bears the identity of its node.
-/
import SchemaDesigner.Proofs.Project.Reopen
import SchemaDesigner.Proofs.Wire.Member

namespace SchemaDesigner

open Json (Document Items Members)

/-! ### Nodes as entries -/

namespace Json

/-- The data of nodes under their identities. -/
def Items.keyed : Items → Members
  | .close => .close
  | .stop kept skipped => .stop kept skipped
  | .item node rest =>
    let key := match node.field? 0 "id" with
      | some (.string key) => key
      | _ => .ok ""
    .member key ((node.field? 3 "data").getD .null) rest.keyed

/-- A project without nodes, which has their data as the entries under their identities. -/
def Document.keyed (d : Document) : Document :=
  let nodes := match d.field? 1 "nodes" with
    | some (.array nodes) => nodes
    | _ => .close
  .object <|
    .member (.ok "projectName") ((d.field? 0 "projectName").getD .null) <|
    .member (.ok "schema") (.object nodes.keyed) .close

end Json

/-! ### What is read of a node and of a project -/

namespace NodeFields

lemma hasField_id : HasField form.slots [] (form.slots[0]) (form.slots.drop 1) "id" TableId.read
    NodeFields.id anySupplies where
  slots_eq := rfl
  refl _ := trivial
  trans _ _ _ _ _ := trivial
  answersTo := Slot.answersTo_iff rfl
  reads := Slot.reads_of_fill (fun s b => { s with id := some b }) (fun _ => rfl)
    (fun _ _ => rfl) fun _ _ => rfl
  others := by
    intro other hother
    simp only [form, List.drop_succ_cons, List.drop_zero, List.mem_cons, List.not_mem_nil, or_false,
      false_or] at hother
    rcases hother with rfl | rfl | rfl
    all_goals exact ⟨rfl, Slot.leaves_of_any (fun _ _ => rfl) fun _ _ => rfl⟩

/-- The other fields of a node draw no identities. -/
lemma hasField_data : HasField form.slots (form.slots.take 3) (form.slots[3]) [] "data"
    (Table.read .text) NodeFields.data Eq where
  slots_eq := rfl
  refl _ := rfl
  trans _ _ _ := Eq.trans
  answersTo := Slot.answersTo_iff rfl
  reads := Slot.reads_of_fill (fun s b => { s with data := some b }) (fun _ => rfl)
    (fun _ _ => rfl) fun _ _ => rfl
  others := by
    intro other hother
    simp only [form, List.take_succ_cons, List.take_zero, List.mem_cons, List.not_mem_nil, or_false]
      at hother
    rcases hother with rfl | rfl | rfl
    · exact ⟨rfl, Slot.leaves_of_drawsNothing (fun _ _ => rfl) (fun _ _ => rfl) fun d =>
        (Read.drawsNothing_text d).map⟩
    · exact ⟨rfl, Slot.leaves_of_drawsNothing (fun _ _ => rfl) (fun _ _ => rfl)
        Read.drawsNothing_text⟩
    · exact ⟨rfl, Slot.leaves_of_drawsNothing (fun _ _ => rfl) (fun _ _ => rfl)
        (Position.drawsNothing_read .text)⟩

lemma finish_eq_ok {missing : String → ReadError} {s : NodeFields} {ids ids' : IdSupply} {n : Node}
    (h : form.finish missing s ids = .ok (n, ids')) :
    s.id = some n.id ∧ s.data = some n.data ∧ ids = ids' := by
  obtain ⟨id, mid, hid, hrest⟩ := Read.bind_eq_ok.mp h
  obtain ⟨data, mid', hdata, hn⟩ := Read.bind_eq_ok.mp hrest
  obtain ⟨sid, kind, position, sdata⟩ := s
  cases sid with
  | none => cases hid
  | some i =>
    cases sdata with
    | none => cases hdata
    | some t =>
      cases hid
      cases hdata
      cases hn
      exact ⟨rfl, rfl, rfl⟩

end NodeFields

lemma TableId.eq_of_read {d : Document} {id : TableId} {ids ids' : IdSupply}
    (h : TableId.read d ids = .ok (id, ids')) : d = .string (.ok id.text) := by
  rw [TableId.read, map_eq_pure_bind] at h
  obtain ⟨text, mid, htext, ⟨⟩⟩ := Read.bind_eq_ok.mp h
  rw [Read.text, Read.textAs.eq_def] at htext
  split at htext
  · cases htext
    rfl
  · cases htext

/-- A node that was read has its identity and its data from their fields, and reading the data draws
what reading the node draws. -/
lemma Node.read_eq_ok {d : Document} {n : Node} {ids ids' : IdSupply}
    (h : Node.read d ids = .ok (n, ids')) :
    d.field? 0 "id" = some (.string (.ok n.id.text))
      ∧ ∃ v, d.field? 3 "data" = some v ∧ Table.read .text v ids = .ok (n.data, ids') := by
  constructor
  · obtain ⟨v, mid, mid', hv, -, hread, -⟩ := NodeFields.hasField_id.exists_value rfl
      (fun _ _ _ _ h => ⟨(NodeFields.finish_eq_ok h).1, trivial⟩) h
    exact hv.trans (congrArg some (TableId.eq_of_read hread))
  · obtain ⟨v, mid, mid', hv, rfl, hread, rfl⟩ := NodeFields.hasField_data.exists_value rfl
      (fun _ _ _ _ h => (NodeFields.finish_eq_ok h).2) h
    exact ⟨v, hv, hread⟩

/-- Nodes that were read are read alike as entries. -/
lemma Read.members_keyed {is : Items} {ns : List Node} {ids ids' : IdSupply}
    (h : Read.items Node.read is ids = .ok (ns, ids')) :
    Read.members (Table.read .text) is.keyed ids
      = .ok (ns.map fun n => (n.id.text, n.data), ids') := by
  induction ns generalizing is ids with
  | nil =>
    cases is with
    | close =>
      cases h
      rfl
    | stop kept skipped => cases h
    | item node rest =>
      obtain ⟨n, mid, -, hrest⟩ := Read.bind_eq_ok.mp h
      obtain ⟨ns, mid', -, hns⟩ := Read.bind_eq_ok.mp hrest
      cases hns
  | cons n ns ih =>
    cases is with
    | close => cases h
    | stop kept skipped => cases h
    | item node rest =>
      obtain ⟨n, mid, hn, hrest⟩ := Read.bind_eq_ok.mp h
      obtain ⟨ns, last, hns, ⟨⟩⟩ := Read.bind_eq_ok.mp hrest
      obtain ⟨hid, v, hv, hdata⟩ := Node.read_eq_ok hn
      rw [Items.keyed, hid, hv]
      exact Read.bind_eq_ok.mpr ⟨n.data, mid, hdata, Read.bind_eq_ok.mpr ⟨_, _, ih hns, rfl⟩⟩

namespace ProjectFields

variable {now : Timestamp}

lemma hasField_name : HasField (form now).slots []
    ((form now).slots.head (List.cons_ne_nil _ _)) ((form now).slots.drop 1) "projectName"
    Read.text ProjectFields.name anySupplies where
  slots_eq := rfl
  refl _ := trivial
  trans _ _ _ _ _ := trivial
  answersTo := Slot.answersTo_iff rfl
  reads := Slot.reads_of_fill (fun s b => { s with name := some b }) (fun _ => rfl)
    (fun _ _ => rfl) fun _ _ => rfl
  others := by
    intro other hother
    simp only [form, List.drop_succ_cons, List.drop_zero, List.mem_cons, List.not_mem_nil, or_false,
      false_or] at hother
    rcases hother with rfl | rfl | rfl | rfl
    all_goals exact ⟨rfl, Slot.leaves_of_any (fun _ _ => rfl) fun _ _ => rfl⟩

lemma hasField_nodes : HasField (form now).slots ((form now).slots.take 1)
    (((form now).slots.drop 1).head (List.cons_ne_nil _ _)) ((form now).slots.drop 2) "nodes"
    (Read.list Node.read) ProjectFields.nodes anySupplies where
  slots_eq := rfl
  refl _ := trivial
  trans _ _ _ _ _ := trivial
  answersTo := Slot.answersTo_iff rfl
  reads := Slot.reads_of_fill (fun s b => { s with nodes := some b }) (fun _ => rfl)
    (fun _ _ => rfl) fun _ _ => rfl
  others := by
    intro other hother
    simp only [form, List.take_succ_cons, List.take_zero, List.drop_succ_cons, List.drop_zero,
      List.mem_cons, List.not_mem_nil, or_false] at hother
    rcases hother with rfl | rfl | rfl | rfl
    all_goals exact ⟨rfl, Slot.leaves_of_any (fun _ _ => rfl) fun _ _ => rfl⟩

lemma finish_eq_ok {missing : String → ReadError} {s : ProjectFields} {ids ids' : IdSupply}
    {p : Project} (h : (form now).finish missing s ids = .ok (p, ids')) :
    s.name = some p.name ∧ p.nodes = s.nodes.getD [] := by
  obtain ⟨name, mid, hname, ⟨⟩⟩ := Read.bind_eq_ok.mp h
  obtain ⟨name?, nodes, entries, timestamp, version⟩ := s
  cases name? with
  | none => cases hname
  | some n =>
    cases hname
    exact ⟨rfl, rfl⟩

end ProjectFields

namespace Project

variable {now : Timestamp} {d : Document} {p : Project} {ids ids' : IdSupply}

/-- Whenever a project with nodes is read, so is the one with their data as entries, from the supply
from which the nodes were read. -/
lemma exists_read_keyed (h : Project.read now d ids = .ok (p, ids')) (hne : p.nodes ≠ []) :
    ∃ mid mid' q, Project.read now d.keyed mid = .ok (q, mid') ∧ q.nodes = []
      ∧ q.entries = sortedEntries (p.nodes.map fun n => (n.id.text, n.data)) := by
  obtain ⟨u, _, _, hu, -, hname, -⟩ := ProjectFields.hasField_name.exists_value rfl
    (fun _ _ _ _ h => ⟨(ProjectFields.finish_eq_ok h).1, trivial⟩) h
  have hnodes : ∀ missing s ids ids',
      (ProjectFields.form now).finish missing s ids = .ok (p, ids') →
      s.nodes = some p.nodes ∧ anySupplies ids ids' := by
    intro missing s ids ids' hfinish
    have heq := (ProjectFields.finish_eq_ok hfinish).2
    cases hs : s.nodes with
    | none =>
      rw [hs] at heq
      exact absurd heq hne
    | some ns =>
      rw [hs] at heq
      exact ⟨congrArg some heq.symm, trivial⟩
  obtain ⟨v, mid, mid', hv, -, hlist, -⟩ :=
    ProjectFields.hasField_nodes.exists_value rfl hnodes h
  obtain ⟨is, rfl⟩ : ∃ is, v = .array is := by
    rw [Read.list.eq_def] at hlist
    split at hlist
    · exact ⟨_, rfl⟩
    · cases hlist
  have hentries := Read.members_keyed hlist
  have hu : d.field? 0 "projectName" = some u := hu
  have hv : d.field? 1 "nodes" = some (.array is) := hv
  obtain ⟨name, hname⟩ : ∃ name, Read.text u = pure name := by
    rw [Read.text, Read.textAs.eq_def] at hname ⊢
    split at hname
    · exact ⟨_, rfl⟩
    · cases hname
  refine ⟨mid, mid', withEdges
    { name := name, entries := sortedEntries (p.nodes.map fun n => (n.id.text, n.data))
      timestamp := now, version := formatVersion }, ?_, rfl, rfl⟩
  have hfill : fillByName (ProjectFields.form now).slots
      (.member (.ok "projectName") u (.member (.ok "schema") (.object is.keyed) .close)) {} mid
        = .ok (⟨some name, none, some (p.nodes.map fun n => (n.id.text, n.data)), none, none⟩,
          mid') := by
    rw [fillByName_member rfl rfl (fill_eq_pure hname _), fillByName_bind rfl rfl]
    refine Read.bind_eq_ok.mpr ⟨_, mid', Read.bind_eq_ok.mpr ⟨_, mid', hentries, rfl⟩, rfl⟩
  rw [Json.Document.keyed, hu, hv]
  exact Read.bind_eq_ok.mpr ⟨_, mid', hfill, rfl⟩

end Project

/-! ### References by identity in any order -/

section Order

variable {tables tables' : List Table}

/-- Of tables with distinct identities, the one with an identity does not depend on the order. -/
lemma find?_id_perm (h : tables.Perm tables') (hids : (tables.map fun t => t.id).Nodup)
    (text : String) :
    tables.find? (fun t => t.id.text == text) = tables'.find? fun t => t.id.text == text := by
  ext t
  rw [find?_id_eq_some_iff hids, find?_id_eq_some_iff ((h.map _).nodup_iff.mp hids), h.mem_iff]

/-- References are resolved alike in any order of the tables. -/
lemma resolveReferences_perm (h : tables.Perm tables')
    (hnames : DistinctNames (tables.map fun t => t.name))
    (hids : (tables.map fun t => t.id).Nodup) :
    (resolveReferences tables).Perm (resolveReferences tables') := by
  have hsame : resolveReference tables = resolveReference tables' := by
    funext r
    rw [resolveReference, resolveReference, referencedTable?, referencedTable?,
      tableNamed?_perm h hnames, find?_id_perm h hids]
  rw [resolveReferences, resolveReferences, hsame]
  exact h.map _

end Order

/-! ### Tables without their places -/

namespace Table

/-- The table at the origin of the canvas. -/
def unplaced (t : Table) : Table :=
  { t with position := .origin }

/-- The table without its identity, its place and its references. -/
def bare (t : Table) : Table :=
  { t.unplaced with
    id := ⟨""⟩
    columns := t.columns.map fun c => { c with reference := none } }

lemma bare_mapReferences (f : Reference → Option Reference) (t : Table) :
    (t.mapReferences f).bare = t.bare := by
  rw [bare, bare, mapReferences, List.map_map]
  rfl

end Table

lemma map_bare_resolveReferences (tables : List Table) :
    (resolveReferences tables).map Table.bare = tables.map Table.bare := by
  rw [resolveReferences, List.map_map]
  exact List.map_congr_left fun t _ => t.bare_mapReferences _

/-- References are resolved alike wherever the tables are placed. -/
lemma map_unplaced_resolveReferences (tables : List Table) :
    (resolveReferences tables).map Table.unplaced
      = resolveReferences (tables.map Table.unplaced) := by
  have hsame : resolveReference (tables.map Table.unplaced) = resolveReference tables :=
    resolveReference_map (f := Table.unplaced) (fun _ => rfl) (fun _ => rfl) (fun _ _ => rfl) tables
  rw [resolveReferences, resolveReferences, hsame, List.map_map, List.map_map]
  rfl

namespace Project

variable {p q : Project}

lemma tables_of_nodes (hne : p.nodes ≠ []) : p.tables = p.nodes.map Node.toTable := by
  rw [tables, if_neg (by simpa using hne)]

lemma tables_of_entries (h : q.nodes = []) : q.tables = q.entries.map Prod.snd := by
  rw [tables, h]
  rfl

section Entries

variable (hne : p.nodes ≠ []) (hids : (p.nodes.map fun n => n.id).Nodup) (hq : q.nodes = [])
  (hentries : q.entries = sortedEntries (p.nodes.map fun n => (n.id.text, n.data)))

include hids hq hentries in
/-- The entries have the data of all nodes, in another order. -/
lemma tables_perm_data : q.tables.Perm (p.nodes.map fun n => n.data) := by
  have hkeys : ((p.nodes.map fun n => (n.id.text, n.data)).map Prod.fst).Nodup := by
    rw [List.map_map]
    exact nodup_idTexts hids
  have hperm := (sortedEntries_perm hkeys).map Prod.snd
  rw [tables_of_entries hq, hentries]
  rwa [List.map_map] at hperm

include hne hids hq hentries in
/-- Names and columns come out alike, references apart. -/
lemma bare_perm : (q.toSchema.tables.map Table.bare).Perm (p.toSchema.tables.map Table.bare) := by
  rw [toSchema, toSchema, map_bare_resolveReferences, map_bare_resolveReferences,
    tables_of_nodes hne, List.map_map]
  have hperm := (tables_perm_data hids hq hentries).map Table.bare
  rw [List.map_map] at hperm
  exact hperm

include hne hids hq hentries in
/-- If each table bears the identity of its node, all comes out alike. -/
lemma unplaced_perm (hnames : DistinctNames (p.nodes.map fun n => n.data.name))
    (hsame : ∀ n ∈ p.nodes, n.data.id = n.id) :
    (q.toSchema.tables.map Table.unplaced).Perm (p.toSchema.tables.map Table.unplaced) := by
  have hdata : (p.nodes.map fun n => n.data).map Table.unplaced
      = (p.nodes.map Node.toTable).map Table.unplaced := by
    rw [List.map_map, List.map_map]
    refine List.map_congr_left fun n hn => ?_
    simp only [Function.comp_apply, Node.toTable, Table.unplaced, ← hsame n hn]
  have hperm : (q.tables.map Table.unplaced).Perm ((p.nodes.map Node.toTable).map Table.unplaced) :=
    hdata ▸ (tables_perm_data hids hq hentries).map Table.unplaced
  rw [toSchema, toSchema, map_unplaced_resolveReferences, map_unplaced_resolveReferences,
    tables_of_nodes hne]
  refine (resolveReferences_perm hperm.symm ?_ ?_).symm
  · rw [List.map_map, List.map_map]
    exact hnames
  · rw [List.map_map, List.map_map]
    exact hids

include hne hids hq hentries in
/-- If all comes out alike, the table with the name of a node has the identity of that node. -/
lemma id_eq_of_unplaced_perm (hnames : DistinctNames (p.nodes.map fun n => n.data.name))
    (h : (q.toSchema.tables.map Table.unplaced).Perm (p.toSchema.tables.map Table.unplaced)) :
    ∀ n ∈ p.nodes, n.data.id = n.id := by
  intro n hn
  have hmem : n.data ∈ q.tables :=
    (tables_perm_data hids hq hentries).mem_iff.mpr (List.mem_map_of_mem hn)
  obtain ⟨u, hu, hunplaced⟩ := List.mem_map.mp (h.mem_iff.mp (List.mem_map_of_mem
    (List.mem_map_of_mem (f := Table.mapReferences fun r => some (resolveReference q.tables r))
      hmem)))
  obtain ⟨v, hv, rfl⟩ := List.mem_map.mp hu
  obtain ⟨m, hm, rfl⟩ := List.mem_map.mp (tables_of_nodes hne ▸ hv)
  have hname : m.data.name = n.data.name := (congrArg Table.name hunplaced :)
  have hid : m.id = n.data.id := (congrArg Table.id hunplaced :)
  obtain rfl := hnames.eq_of_mem hm hn (hname ▸ namesMatch_refl _)
  exact hid.symm

end Entries

/-- Let a project with nodes be read, whose identities and whose names of tables are distinct, and
then the project with their data as entries under their identities. Apart from the places and the
order of the tables, both have the same tables with the same columns, but for identities and
references. They have the same identities and references if and only if each table bears the
identity of its node. -/
theorem keyed_agrees_iff {now : Timestamp} {d : Document} {ids ids' : IdSupply}
    (h : Project.read now d ids = .ok (p, ids')) (hne : p.nodes ≠ [])
    (hids : (p.nodes.map fun n => n.id).Nodup)
    (hnames : DistinctNames (p.nodes.map fun n => n.data.name)) :
    ∃ mid mid' q, Project.read now d.keyed mid = .ok (q, mid')
      ∧ (q.toSchema.tables.map Table.bare).Perm (p.toSchema.tables.map Table.bare)
      ∧ ((q.toSchema.tables.map Table.unplaced).Perm (p.toSchema.tables.map Table.unplaced)
        ↔ ∀ n ∈ p.nodes, n.data.id = n.id) := by
  obtain ⟨mid, mid', q, hread, hq, hentries⟩ := exists_read_keyed h hne
  exact ⟨mid, mid', q, hread, bare_perm hne hids hq hentries,
    id_eq_of_unplaced_perm hne hids hq hentries hnames,
    unplaced_perm hne hids hq hentries hnames⟩

/-- A project with two nodes, of which the second one refers to the first by identity. The table of
the first node bears the identity `id`. -/
def twoNodes (id : String) : Project :=
  withEdges {
    name := "shop"
    nodes := [
      { id := ⟨"node-1"⟩, kind := Node.tableKind, position := .origin,
        data := { id := ⟨id⟩, name := "users", columns := [
          { name := "id", type := .int, primaryKey := true, id := ⟨"col-1"⟩ }] } },
      { id := ⟨"node-2"⟩, kind := Node.tableKind, position := .origin,
        data := { id := ⟨"node-2"⟩, name := "orders", columns := [
          { name := "user_id", type := .int, reference := some ⟨"node-1", "col-1"⟩,
            id := ⟨"col-2"⟩ }] } }]
    timestamp := .epoch
    version := formatVersion }

lemma read_twoNodes (id : String) (ids : IdSupply) :
    Project.read .epoch (.ofJson (twoNodes id).toJson) ids = .ok (twoNodes id, ids) := by
  have htime : Timestamp.ofText Timestamp.epoch.text = .ok .epoch := by decide
  have habsent : ∀ text ∈ (none : Option String), Text.isBlankText text = false := by simp
  have hstorable : (twoNodes id).IsStorable := by
    refine ⟨?_, by simp [twoNodes, withEdges], List.Pairwise.nil, rfl⟩
    simp only [twoNodes, withEdges, List.forall_mem_cons, Table.IsStorable]
    exact ⟨⟨⟨⟨by decide, by decide, habsent, habsent⟩, by simp⟩, by simp⟩,
      ⟨⟨⟨by decide, by decide, habsent, habsent⟩,
        fun r hr => Option.some.inj hr ▸ ⟨by decide, by decide⟩⟩, by simp⟩, by simp⟩
  exact congrFun (read_toJson .epoch hstorable htime) ids

/-- Where each table bears the identity of its node, the reference by identity is resolved in both
copies. -/
theorem keyed_agrees_twoNodes :
    Project.read .epoch (.ofJson (twoNodes "node-1").toJson) ⟨0⟩ = .ok (twoNodes "node-1", ⟨0⟩)
    ∧ (twoNodes "node-1").toSchema.relationships.length = 1
    ∧ ∃ mid mid' q,
      Project.read .epoch (Document.ofJson (twoNodes "node-1").toJson).keyed mid = .ok (q, mid')
      ∧ (q.toSchema.tables.map Table.unplaced).Perm
        ((twoNodes "node-1").toSchema.tables.map Table.unplaced) := by
  have hread := read_twoNodes "node-1" ⟨0⟩
  obtain ⟨mid, mid', q, hkeyed, -, hiff⟩ := keyed_agrees_iff hread (List.cons_ne_nil _ _)
    (by decide) (by decide)
  exact ⟨hread, by decide, mid, mid', q, hkeyed, hiff.mpr (by decide)⟩

/-- Where the first table bears another identity, the entries give it that one, and the reference by
identity to its node gets lost. -/
theorem keyed_disagrees_twoNodes :
    Project.read .epoch (.ofJson (twoNodes "stale").toJson) ⟨0⟩ = .ok (twoNodes "stale", ⟨0⟩)
    ∧ (twoNodes "stale").nodes ≠ []
    ∧ ((twoNodes "stale").nodes.map fun n => n.id).Nodup
    ∧ DistinctNames ((twoNodes "stale").nodes.map fun n => n.data.name)
    ∧ (twoNodes "stale").toSchema.relationships.length = 1
    ∧ ∃ mid mid' q,
      Project.read .epoch (Document.ofJson (twoNodes "stale").toJson).keyed mid = .ok (q, mid')
      ∧ q.toSchema.relationships = []
      ∧ ¬(q.toSchema.tables.map Table.unplaced).Perm
        ((twoNodes "stale").toSchema.tables.map Table.unplaced) := by
  have hread := read_twoNodes "stale" ⟨0⟩
  obtain ⟨mid, mid', q, hkeyed, hq, hentries⟩ := exists_read_keyed hread (List.cons_ne_nil _ _)
  have hschema : q.toSchema = ⟨resolveReferences
      ((sortedEntries ((twoNodes "stale").nodes.map fun n => (n.id.text, n.data))).map
        Prod.snd)⟩ := by
    rw [toSchema, tables_of_entries hq, hentries]
  refine ⟨hread, List.cons_ne_nil _ _, by decide, by decide, by decide, mid,
    mid', q, hkeyed, ?_, fun hperm => ?_⟩
  · rw [hschema]
    decide
  · have hids := hperm.map fun t => t.id
    rw [hschema] at hids
    revert hids
    decide

end Project

end SchemaDesigner
