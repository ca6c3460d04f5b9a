/-
The elements of a table definition: columns and constraints.

* `Constraint`, `Element`: a constraint on one column, and either of the two;
* `readColumn?`, `readConstraint?`: the element that a part of a body is;
* `Element.ofTokens?`: the same for any part. A part of another form is no element.
-/
import SchemaDesigner.Script.ColumnOption

namespace SchemaDesigner.Script

/-- A constraint of a table on one of its columns. -/
inductive Constraint
  | primaryKey (column : String)
  | unique (column : String)
  | foreignKey (column : String) (r : Reference)
  deriving DecidableEq, Repr

/-- An element of the body of a table definition. -/
inductive Element
  | column (c : ColumnDef)
  | constraint (c : Constraint)
  deriving DecidableEq, Repr

/-! ### Columns -/

/-- The type spelled by two words. -/
def twoWordType? (first second : String) : Option ColumnType :=
  match Text.upper first, Text.upper second with
  | "DOUBLE", "PRECISION" => some .double
  | "CHARACTER", "VARYING" | "CHAR", "VARYING" => some .varchar
  | _, _ => none

/-- The type spelled by one word. -/
def oneWordType (word : String) : ColumnType :=
  if Text.upper word = "CHARACTER" then .char else ColumnType.ofName word

/-- The type that begins with a word, whether it counts up by itself, and what follows it. -/
def readType (first : String) (ts : List Token) : ColumnType × Bool × List Token :=
  match ColumnType.ofSerial? first with
  | some type => (type, true, ts)
  | none => match ts with
    | .ident second :: r =>
      match twoWordType? first second with
      | some type => (type, false, r)
      | none => (oneWordType first, false, ts)
    | _ => (oneWordType first, false, ts)

/-- A column: its name, its type with a size, and its options. -/
def readColumn? : List Token → Option ColumnDef
  | .ident name :: .ident first :: r =>
    let (type, counts, r) := readType first r
    let (size, r) := readSize r
    let column : ColumnDef := { name, type, size, autoIncrement := counts }
    some ((readOptions r).foldl ColumnOption.apply column)
  | _ => none

/-! ### Constraints -/

/-- The tokens without an identifier in front. -/
def dropIdent : List Token → List Token
  | .ident _ :: r => r
  | ts => ts

/-- The tokens without the name of a constraint in front. -/
def dropConstraintName : List Token → List Token
  | .keyword .constraint :: r => dropIdent r
  | ts => ts

/-- The one column of a list in parentheses. -/
def readSingleColumn (ts : List Token) : Option String × List Token :=
  match readColumnList ts with
  | (some [column], rest) => (some column, rest)
  | (_, rest) => (none, rest)

/-- A constraint on a single column. A name after the kind of the constraint is skipped, and so are
the actions after a reference. -/
def readConstraint? : List Token → Option Constraint
  | .keyword .primary :: .keyword .key :: r => (readSingleColumn r).1.map .primaryKey
  | .keyword .unique :: .keyword .key :: r
  | .keyword .unique :: .keyword .index :: r
  | .keyword .unique :: r => (readSingleColumn (dropIdent r)).1.map .unique
  | .keyword .foreign :: .keyword .key :: r =>
    match readSingleColumn (dropIdent r) with
    | (some column, .keyword .references :: rest) =>
      (readReference rest).1.map (.foreignKey column)
    | _ => none
  | _ => none

/-- The element that a part of a body is. -/
def Element.ofTokens? (ts : List Token) : Option Element :=
  match dropConstraintName ts with
  | .ident name :: r => (readColumn? (.ident name :: r)).map .column
  | rest => (readConstraint? rest).map .constraint

end SchemaDesigner.Script
