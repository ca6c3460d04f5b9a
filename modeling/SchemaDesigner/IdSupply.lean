/-
Identities that nothing had before.

* `IdSupply`: a source of identities, each with its own number;
* `identityText`: the written form of a number, as a random identifier of version 4;
* `IdSupply.draw`: the next identity;
* `Column.ofDef`, `Table.ofDef`, `Table.ofDefs`: defined columns and tables with identities.
-/
import SchemaDesigner.Table

namespace SchemaDesigner

/-- A source of identities: the number of the next one. -/
structure IdSupply where
  next : Nat
  deriving DecidableEq, Repr

/-- A number in hexadecimal with just `width` digits, of which the higher ones get lost. -/
def hexText (width n : Nat) : List Char :=
  match width with
  | 0 => []
  | width + 1 => hexText width (n / 16) ++ [Nat.digitChar (n % 16)]

/-- A number of 122 bits in the form of a random identifier, whose other six bits are fixed. -/
def identityText (n : Nat) : String :=
  String.ofList <|
    hexText 8 (n >>> 90) ++ '-' :: hexText 4 (n >>> 74) ++ '-' :: '4' :: hexText 3 (n >>> 62)
      ++ '-' :: Nat.digitChar (8 + (n >>> 60) % 4) :: hexText 3 (n >>> 48)
      ++ '-' :: hexText 12 n

/-- The next identity. -/
def IdSupply.draw : StateM IdSupply String := fun s =>
  (identityText s.next, ⟨s.next + 1⟩)

/-- A defined column with a new identity. -/
def Column.ofDef (d : ColumnDef) : StateM IdSupply Column := do
  let id ← IdSupply.draw
  return { d with id := ⟨id⟩ }

/-- A defined table with new identities, at a position. -/
def Table.ofDef (position : Position) (d : TableDef) : StateM IdSupply Table := do
  let id ← IdSupply.draw
  let columns ← d.columns.mapM Column.ofDef
  return { id := ⟨id⟩, name := d.name, columns, position }

/-- Defined tables with new identities, in their order on the grid. -/
def Table.ofDefs (ds : List TableDef) : StateM IdSupply (List Table) :=
  ds.zipIdx.mapM fun (d, i) => Table.ofDef (.grid i) d

end SchemaDesigner
