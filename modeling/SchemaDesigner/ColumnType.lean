/-
Base types of columns.

* `ColumnType`: the known types, and `other` for a type name that is kept as it was written, in
  upper case;
* `ColumnType.name` and `ColumnType.ofName`: the written form and its reader;
* `ColumnType.ofSerial?`: the integer type behind a serial pseudo-type;
* `ColumnType.family`, `ColumnType.isInteger`: how types group.
-/
import SchemaDesigner.Text.Blank
import SchemaDesigner.Text.Upper

namespace SchemaDesigner

/-- Broad groups of base types. -/
inductive TypeFamily
  | numeric
  | string
  | temporal
  | json
  | spatial
  | other
  deriving DecidableEq, Repr

/-- The base type of a column. -/
inductive ColumnType
  | tinyInt
  | smallInt
  | mediumInt
  | int
  | bigInt
  | decimal
  | float
  | double
  | bit
  | char
  | varchar
  | binary
  | varBinary
  | tinyText
  | text
  | mediumText
  | longText
  | tinyBlob
  | blob
  | mediumBlob
  | longBlob
  | date
  | time
  | dateTime
  | timestamp
  | year
  | json
  | geometry
  | point
  | lineString
  | polygon
  | multiPoint
  | multiLineString
  | multiPolygon
  | geometryCollection
  | other (name : String)
  deriving DecidableEq, Repr

namespace ColumnType

/-- The known types. -/
def known : List ColumnType :=
  [tinyInt, smallInt, mediumInt, int, bigInt, decimal, float, double, bit,
   char, varchar, binary, varBinary, tinyText, text, mediumText, longText,
   tinyBlob, blob, mediumBlob, longBlob,
   date, time, dateTime, timestamp, year,
   json,
   geometry, point, lineString, polygon, multiPoint, multiLineString, multiPolygon,
   geometryCollection]

/-- The written form of a type. -/
def name : ColumnType → String
  | tinyInt => "TINYINT"
  | smallInt => "SMALLINT"
  | mediumInt => "MEDIUMINT"
  | int => "INT"
  | bigInt => "BIGINT"
  | decimal => "DECIMAL"
  | float => "FLOAT"
  | double => "DOUBLE"
  | bit => "BIT"
  | char => "CHAR"
  | varchar => "VARCHAR"
  | binary => "BINARY"
  | varBinary => "VARBINARY"
  | tinyText => "TINYTEXT"
  | text => "TEXT"
  | mediumText => "MEDIUMTEXT"
  | longText => "LONGTEXT"
  | tinyBlob => "TINYBLOB"
  | blob => "BLOB"
  | mediumBlob => "MEDIUMBLOB"
  | longBlob => "LONGBLOB"
  | date => "DATE"
  | time => "TIME"
  | dateTime => "DATETIME"
  | timestamp => "TIMESTAMP"
  | year => "YEAR"
  | json => "JSON"
  | geometry => "GEOMETRY"
  | point => "POINT"
  | lineString => "LINESTRING"
  | polygon => "POLYGON"
  | multiPoint => "MULTIPOINT"
  | multiLineString => "MULTILINESTRING"
  | multiPolygon => "MULTIPOLYGON"
  | geometryCollection => "GEOMETRYCOLLECTION"
  | other name => name

/-- The type written by a name in upper case; `INTEGER` is a second name of `INT`. -/
def ofUpper (u : String) : ColumnType :=
  if u = "INTEGER" then int
  else (known.find? fun t => t.name == u).getD (other u)

/-- The type that a name denotes, in any case and between any blanks. -/
def ofName (s : String) : ColumnType :=
  ofUpper (Text.upper (Text.trim s))

/-- The integer type behind a serial pseudo-type. -/
def ofSerial? (s : String) : Option ColumnType :=
  match Text.upper s with
  | "SERIAL" | "SERIAL4" => some int
  | "BIGSERIAL" | "SERIAL8" => some bigInt
  | "SMALLSERIAL" | "SERIAL2" => some smallInt
  | _ => none

/-- The family of a type. -/
def family : ColumnType → TypeFamily
  | tinyInt | smallInt | mediumInt | int | bigInt | decimal | float | double | bit => .numeric
  | char | varchar | binary | varBinary | tinyText | text | mediumText | longText
  | tinyBlob | blob | mediumBlob | longBlob => .string
  | date | time | dateTime | timestamp | year => .temporal
  | json => .json
  | geometry | point | lineString | polygon | multiPoint | multiLineString | multiPolygon
  | geometryCollection => .spatial
  | other _ => .other

/-- The integer types, which alone can count up by themselves. -/
def isInteger : ColumnType → Bool
  | tinyInt | smallInt | mediumInt | int | bigInt => true
  | _ => false

/-- Whether the type is outside the known set. -/
def isOther : ColumnType → Bool
  | other _ => true
  | _ => false

instance : ToString ColumnType := ⟨name⟩

end ColumnType

end SchemaDesigner
