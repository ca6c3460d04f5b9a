/-
Tables that come from a script.

* `ImportFault`: why a script gives no tables, with its `message`;
* `importTables`: the tables that a script defines, with new identities and places on the grid.
-/
import SchemaDesigner.IdSupply
import SchemaDesigner.Script.Definition

namespace SchemaDesigner

/-- Why a script gives no tables. -/
inductive ImportFault
  | noTables
  deriving DecidableEq, Repr

/-- The text of a fault. -/
def ImportFault.message : ImportFault → String
  | noTables => "No valid tables found"

/-- The tables that a script defines, of which there has to be one. -/
def importTables (script : String) : StateT IdSupply (Except ImportFault) (List Table) := fun ids =>
  match Script.parse script with
  | [] => .error .noTables
  | ds => .ok (Table.ofDefs ds ids)

end SchemaDesigner
