/-
SQL dialects and how they differ.

* `Dialect`, `Dialect.all`: the seven dialects;
* `Dialect.id`, `Dialect.title`: the name for machines and the name for people;
* `Dialect.quote`: identifiers as the dialect writes them;
* `Dialect.autoIncrementWord?`, `Dialect.serialType?`: how a column counts up by itself;
* `Dialect.ofName?`: the dialect that a user means by a name.
-/
import SchemaDesigner.Column
import SchemaDesigner.Text.Delimited

namespace SchemaDesigner

/-- A dialect of SQL. -/
inductive Dialect
  | standard
  | postgreSql
  | mySql
  | cockroachDb
  | sqlite
  | sqlServer
  | oracle
  deriving DecidableEq, Repr

namespace Dialect

/-- The dialects in their usual order. -/
def all : List Dialect :=
  [standard, postgreSql, mySql, cockroachDb, sqlite, sqlServer, oracle]

/-- The name on the command line and in documents. -/
def id : Dialect → String
  | standard => "standard"
  | postgreSql => "postgresql"
  | mySql => "mysql"
  | cockroachDb => "cockroachdb"
  | sqlite => "sqlite"
  | sqlServer => "mssql"
  | oracle => "oracle"

/-- The name for people. -/
def title : Dialect → String
  | standard => "Standard SQL"
  | postgreSql => "PostgreSQL"
  | mySql => "MySQL"
  | cockroachDb => "CockroachDB"
  | sqlite => "SQLite"
  | sqlServer => "SQL Server"
  | oracle => "Oracle"

/-- An identifier as the dialect writes it: between quotes, between brackets, or bare. -/
def quote (d : Dialect) (name : String) : String :=
  match d with
  | postgreSql | cockroachDb | oracle => "\"" ++ Text.doubled '"' name ++ "\""
  | sqlServer => "[" ++ Text.doubled ']' name ++ "]"
  | standard | mySql | sqlite => name

/-- The word for a column that counts up by itself, in the dialects that have one. -/
def autoIncrementWord? : Dialect → Option String
  | standard | mySql => some "AUTO_INCREMENT"
  | sqlite => some "AUTOINCREMENT"
  | sqlServer => some "IDENTITY(1,1)"
  | postgreSql | cockroachDb | oracle => none

/-- The serial type that stands for the type of a primary key that counts up by itself. -/
def serialType? (d : Dialect) (c : ColumnDef) : Option String :=
  match d, c.type with
  | postgreSql, .int | cockroachDb, .int =>
    if c.primaryKey && c.autoIncrement then some "SERIAL" else none
  | postgreSql, .bigInt | cockroachDb, .bigInt =>
    if c.primaryKey && c.autoIncrement then some "BIGSERIAL" else none
  | _, _ => none

/-- Whether referring columns get an index of their own. -/
def indexesReferences : Dialect → Bool
  | postgreSql | mySql => true
  | _ => false

/-- The lower case of a character as far as the names of dialects need it: besides the letters of
ASCII, only the Kelvin sign has an ASCII letter as lower case. -/
def lowerForName (c : Char) : Char :=
  if c.toNat = 0x212A then 'k' else c.toLower

/-- The dialect meant by a name, in any case and between any blanks. -/
def ofName? (name : String) : Option Dialect :=
  match String.ofList ((Text.trim name).toList.map lowerForName) with
  | "standard" | "generic" | "sql" => some standard
  | "postgres" | "postgresql" | "pg" => some postgreSql
  | "mysql" | "mariadb" => some mySql
  | "cockroach" | "cockroachdb" => some cockroachDb
  | "sqlite" | "sqlite3" => some sqlite
  | "mssql" | "sqlserver" | "tsql" => some sqlServer
  | "oracle" => some oracle
  | _ => none

/-- The refusal of a name that means no dialect. -/
def unknownMessage (name : String) : String :=
  "Unknown dialect: " ++ name

end Dialect

end SchemaDesigner
