/-
Projects and relationships in documents.

* `Relationship.toJson`, `Edge.toJson`, `Node.toJson`, `Project.toJson`: their records;
* `Node.read`, `Project.read`: nodes and projects from their records;
* `Project.ofText`, `Project.toText`: a project as a text.

The field `edges` is unknown to the reader, since edges follow from the tables.
-/
import SchemaDesigner.Project
import SchemaDesigner.Wire.Table

namespace SchemaDesigner

open Json (Document Items Members Fault)

/-! ### Relationships and edges -/

/-- The members of the record of a relationship. -/
def Relationship.members (r : Relationship) : List (String × Json) :=
  [("sourceTable", .string r.sourceTable),
   ("sourceColumn", .string r.sourceColumn),
   ("targetTable", .string r.targetTable),
   ("targetColumn", .string r.targetColumn),
   ("optional", .bool r.optional)]

/-- The record of a relationship. -/
def Relationship.toJson (r : Relationship) : Json :=
  .object r.members

/-- The record of an edge, which holds that of its relationship. -/
def Edge.toJson (e : Edge) : Json :=
  .object <|
    [("id", .string e.id),
     ("source", .string e.source.text),
     ("target", .string e.target.text),
     ("sourceHandle", .string e.sourceHandle),
     ("targetHandle", .string e.targetHandle)]
    ++ e.relationship.members

/-! ### Nodes -/

/-- The record of a node, as far as it was read. -/
structure NodeFields where
  id : Option TableId := none
  kind : Option String := none
  position : Option Position := none
  data : Option Table := none

/-- The form of the record of a node. -/
def NodeFields.form : RecordForm NodeFields Node where
  title := "struct Node"
  slots :=
    [{ name := "id", isFilled := fun s => s.id.isSome
       fill := fun d s => do return { s with id := some (← TableId.read d) } },
     { name := "type", optional := true, isFilled := fun s => s.kind.isSome
       fill := fun d s => do return { s with kind := some (← Read.text d) } },
     { name := "position", optional := true, isFilled := fun s => s.position.isSome
       fill := fun d s => do return { s with position := some (← Position.read .text d) } },
     { name := "data", isFilled := fun s => s.data.isSome
       fill := fun d s => do return { s with data := some (← Table.read .text d) } }]
  start := {}
  finish missing s := do
    let id ← required missing "id" s.id
    let data ← required missing "data" s.data
    return { id, kind := s.kind.getD Node.tableKind, position := s.position.getD Position.origin
             data }

/-- A node from its record. -/
def Node.read : Document → Read Node :=
  NodeFields.form.read .text

/-- The record of a node. -/
def Node.toJson (n : Node) : Json :=
  .object
    [("id", .string n.id.text),
     ("type", .string n.kind),
     ("position", n.position.toJson),
     ("data", n.data.toJson)]

/-! ### Projects -/

/-- The record of a project, as far as it was read. -/
structure ProjectFields where
  name : Option String := none
  nodes : Option (List Node) := none
  entries : Option (List (String × Table)) := none
  timestamp : Option Timestamp := none
  version : Option String := none

/-- A point of time from its text. -/
def Timestamp.read (d : Document) : Read Timestamp := do
  match Timestamp.ofText (← Read.textAs "an RFC 3339 formatted date and time string" d) with
  | .ok t => return t
  | .error fault => throw (.badTimestamp fault)

/-- The form of the record of a project. One without a time is as old as `now`. -/
def ProjectFields.form (now : Timestamp) : RecordForm ProjectFields Project where
  title := "struct Project"
  slots :=
    [{ name := "projectName", isFilled := fun s => s.name.isSome
       fill := fun d s => do return { s with name := some (← Read.text d) } },
     { name := "nodes", optional := true, isFilled := fun s => s.nodes.isSome
       fill := fun d s => do return { s with nodes := some (← Read.list Node.read d) } },
     { name := "schema", optional := true, isFilled := fun s => s.entries.isSome
       fill := fun d s => do
         return { s with entries := some (← Read.map (Table.read .text) d) } },
     { name := "timestamp", optional := true, isFilled := fun s => s.timestamp.isSome
       fill := fun d s => do return { s with timestamp := some (← Timestamp.read d) } },
     { name := "version", optional := true, isFilled := fun s => s.version.isSome
       fill := fun d s => do return { s with version := some (← Read.text d) } }]
  start := {}
  finish missing s := do
    let name ← required missing "projectName" s.name
    return Project.withEdges
      { name
        nodes := s.nodes.getD []
        entries := sortedEntries (s.entries.getD [])
        timestamp := s.timestamp.getD now
        version := s.version.getD Project.formatVersion }

namespace Project

/-- A project from its record. -/
def read (now : Timestamp) : Document → Read Project :=
  (ProjectFields.form now).read .text

/-- The project that a text writes. -/
def ofText (now : Timestamp) : String → Read Project :=
  Read.ofText (read now)

/-- The record of a project. -/
def toJson (p : Project) : Json :=
  .object
    [("projectName", .string p.name),
     ("nodes", .array (p.nodes.map Node.toJson)),
     ("edges", .array (p.edges.map Edge.toJson)),
     ("schema", .object (p.entries.map fun e => (e.1, e.2.toJson))),
     ("timestamp", .string p.timestamp.text),
     ("version", .string p.version)]

/-- The text of a project, on lines. -/
def toText (p : Project) : String :=
  p.toJson.pretty

end Project

end SchemaDesigner
