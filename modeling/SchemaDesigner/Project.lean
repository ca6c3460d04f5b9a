/-
Projects: a schema as it is kept on disk, with what a canvas needs to draw it.

* `Node`: a table placed on the canvas;
* `Edge`, `Edge.ofSchema`: a relationship drawn between the handles of two nodes;
* `Project`, `Project.ofSchema`: a schema under a name and with a time;
* `resolveReferences`: references by identity, as older projects have them, turned into names;
* `Project.toSchema`: the schema of a project.

A project holds each table twice, as a node and under its identity. The nodes count where there are
any. Edges are never read but follow from the tables.
-/
import SchemaDesigner.Schema.Basic
import SchemaDesigner.Timestamp.Basic

namespace SchemaDesigner

/-- A table placed on the canvas. -/
structure Node where
  id : TableId
  kind : String
  position : Position
  data : Table
  deriving DecidableEq, Repr

/-- The kind of a node that shows a table. -/
def Node.tableKind : String := "tableNode"

/-- The node of a table. -/
def Node.ofTable (t : Table) : Node :=
  { id := t.id, kind := Node.tableKind, position := t.position, data := t }

/-- The table of a node, with the identity and the place of the node. -/
def Node.toTable (n : Node) : Table :=
  { n.data with id := n.id, position := n.position }

/-- A relationship drawn between the handles of two nodes. -/
structure Edge where
  id : String
  source : TableId
  target : TableId
  sourceHandle : String
  targetHandle : String
  relationship : Relationship
  deriving DecidableEq, Repr

/-- The edge of a relationship between two tables. -/
def Edge.between (source target : Table) (r : Relationship) : Edge :=
  { id := "rel-" ++ source.id.text ++ "-" ++ r.sourceColumn
    source := source.id
    target := target.id
    sourceHandle := r.sourceColumn ++ "-source"
    targetHandle := r.targetColumn ++ "-target"
    relationship := r }

/-- The edges of a schema. -/
def Edge.ofSchema (s : Schema) : List Edge :=
  s.relationships.filterMap fun r => do
    let source ← s.tableNamed? r.sourceTable
    let target ← s.tableNamed? r.targetTable
    return Edge.between source target r

/-! ### Tables by identity -/

/-- Whether a text comes before another in the order of code points. -/
def keyBefore (a b : String) : Bool :=
  decide (a < b)

/-- Entries with another one put in its place by key, instead of one of the same key. -/
def insertEntry (key : String) (t : Table) : List (String × Table) → List (String × Table)
  | [] => [(key, t)]
  | (k, u) :: es =>
    if keyBefore key k then (key, t) :: (k, u) :: es
    else if key = k then (key, t) :: es
    else (k, u) :: insertEntry key t es

/-- Tables in the order of their keys. Of several with the same key the last one counts. -/
def sortedEntries (es : List (String × Table)) : List (String × Table) :=
  es.foldl (fun sorted e => insertEntry e.1 e.2 sorted) []

/-! ### References by identity -/

/-- The table that a reference means: by name, or else by identity. -/
def referencedTable? (tables : List Table) (r : Reference) : Option Table :=
  (tableNamed? tables r.table).or (tables.find? fun t => t.id.text == r.table)

/-- The name of the column that a reference to a table means: by name, or else by identity. A name
stays as it is written. -/
def referencedColumn (target : Table) (column : String) : String :=
  if (target.column? column).isSome then column
  else match target.columns.find? fun c => c.id.text == column with
    | some c => c.name
    | none => column

/-- A reference with names instead of identities. -/
def resolveReference (tables : List Table) (r : Reference) : Reference :=
  match referencedTable? tables r with
  | some target =>
    ⟨if namesMatch r.table target.name then r.table else target.name,
     referencedColumn target r.column⟩
  | none => r

/-- Tables whose references have names instead of identities. -/
def resolveReferences (tables : List Table) : List Table :=
  tables.map <| Table.mapReferences fun r => some (resolveReference tables r)

/-! ### Projects -/

/-- A schema under a name, as it is kept on disk. -/
structure Project where
  name : String
  nodes : List Node := []
  edges : List Edge := []
  /-- The tables with their keys, in the order of these. -/
  entries : List (String × Table) := []
  timestamp : Timestamp
  version : String
  deriving DecidableEq, Repr

namespace Project

/-- The version of the format. -/
def formatVersion : String := "1.0"

/-- The tables of a project: those of the nodes, or of the entries if there are no nodes. -/
def tables (p : Project) : List Table :=
  if p.nodes.isEmpty then p.entries.map Prod.snd else p.nodes.map Node.toTable

/-- The schema of a project. -/
def toSchema (p : Project) : Schema :=
  ⟨resolveReferences p.tables⟩

/-- A schema under a name at a time. -/
def ofSchema (name : String) (time : Timestamp) (s : Schema) : Project :=
  { name
    nodes := s.tables.map Node.ofTable
    edges := Edge.ofSchema s
    entries := sortedEntries (s.tables.map fun t => (t.id.text, t))
    timestamp := time
    version := formatVersion }

/-- The project with the edges that follow from its tables. -/
def withEdges (p : Project) : Project :=
  { p with edges := Edge.ofSchema p.toSchema }

end Project

end SchemaDesigner
