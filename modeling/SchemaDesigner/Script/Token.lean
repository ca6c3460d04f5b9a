/-
Tokens of a script of SQL statements.

* `Keyword`: the words that the grammar of table definitions knows;
* `Keyword.ofWord?`: the keyword that a word is, in any case;
* `Token`: keywords, identifiers, literals and symbols.
-/
import SchemaDesigner.Text.Upper

namespace SchemaDesigner.Script

/-- The words that the grammar of table definitions knows. -/
inductive Keyword
  | create
  | table
  | ifWord
  | not
  | exist
  | primary
  | key
  | foreign
  | references
  | null
  | unique
  | default
  | constraint
  | index
  | check
  | on
  | autoIncrement
  deriving DecidableEq, Repr

/-- The keyword that a word is, in any case. Automatic counting has two spellings. -/
def Keyword.ofWord? (word : String) : Option Keyword :=
  match Text.upper word with
  | "CREATE" => some create
  | "TABLE" => some table
  | "IF" => some ifWord
  | "NOT" => some not
  | "EXISTS" => some exist
  | "PRIMARY" => some primary
  | "KEY" => some key
  | "FOREIGN" => some foreign
  | "REFERENCES" => some references
  | "NULL" => some null
  | "UNIQUE" => some unique
  | "DEFAULT" => some default
  | "CONSTRAINT" => some constraint
  | "INDEX" => some index
  | "CHECK" => some check
  | "ON" => some on
  | "AUTO_INCREMENT" | "AUTOINCREMENT" => some autoIncrement
  | _ => none

/-- A token of a script. -/
inductive Token
  | keyword (k : Keyword)
  /-- A word that is no keyword, or any text between identifier quotes. -/
  | ident (name : String)
  /-- A text between single quotes, in which a quote was written twice. -/
  | str (text : String)
  /-- A word right in front of a text between single quotes, such as in `N'abc'`. -/
  | prefixed (word text : String)
  | num (digits : String)
  | lparen
  | rparen
  | comma
  | semicolon
  | dot
  deriving DecidableEq, Repr

end SchemaDesigner.Script
