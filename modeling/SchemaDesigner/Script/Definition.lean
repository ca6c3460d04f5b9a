/-
The tables that a script defines.

* `tableOf?`: a table from the elements of its definition, constraints after columns;
* `readCreate`: the definition after the word CREATE, if it is one of a table, and what follows;
* `definitions`: all definitions among some tokens. What is no definition is skipped;
* `parse`: the tables of a script, of which the first of a name counts.

Nothing here fails: what does not fit the grammar is left out.
-/
import SchemaDesigner.Table
import SchemaDesigner.Script.Body
import SchemaDesigner.Script.Element
import SchemaDesigner.Script.Lexer

namespace SchemaDesigner.Script

/-- The elements that are not the same as an earlier one that was kept. -/
def keepFirst {α : Type} (same : α → α → Bool) (l : List α) : List α :=
  l.foldl (fun kept a => if kept.any (same · a) then kept else kept ++ [a]) []

/-! ### From elements to a table -/

/-- The columns among some elements, of which the first of a name counts. -/
def columnsOf (es : List Element) : List ColumnDef :=
  keepFirst (fun a b => namesMatch a.name b.name) <| es.filterMap fun
    | .column c => some c
    | .constraint _ => none

/-- The constraints among some elements. -/
def constraintsOf (es : List Element) : List Constraint :=
  es.filterMap fun
    | .column _ => none
    | .constraint c => some c

/-- The columns with only the first primary key among them as one, and none if one was `seen`
before. -/
def firstKeyOnly (seen : Bool) : List ColumnDef → List ColumnDef
  | [] => []
  | c :: cs =>
    if c.primaryKey then { c with primaryKey := !seen } :: firstKeyOnly true cs
    else c :: firstKeyOnly seen cs

/-- The columns with the first one of a name changed. -/
def modifyNamed (name : String) (f : ColumnDef → ColumnDef) (cs : List ColumnDef) :
    List ColumnDef :=
  match cs.findIdx? fun c => namesMatch c.name name with
  | some i => cs.modify i f
  | none => cs

/-- The columns under a constraint. One on an unknown column changes nothing. -/
def applyConstraint (cs : List ColumnDef) : Constraint → List ColumnDef
  | .primaryKey name =>
    match cs.findIdx? fun c => namesMatch c.name name with
    | some i => cs.mapIdx fun j c => c.asSoleKey (j == i)
    | none => cs
  | .unique name => modifyNamed name (fun c => { c with unique := true }) cs
  | .foreignKey name r => modifyNamed name (fun c => { c with reference := some r }) cs

/-- The table with some elements. Without a column there is none. -/
def tableOf? (name : String) (es : List Element) : Option TableDef :=
  match (constraintsOf es).foldl applyConstraint (firstKeyOnly false (columnsOf es)) with
  | [] => none
  | columns => some ⟨name, columns⟩

/-! ### From tokens to tables -/

/-- The words that may stand between CREATE and TABLE. -/
def isModifier : Token → Bool
  | .ident w => ["TEMPORARY", "TEMP", "GLOBAL", "LOCAL", "UNLOGGED"].any (namesMatch w)
  | _ => false

/-- The tokens without the condition that the table does not exist. -/
def dropCondition : List Token → List Token
  | .keyword .ifWord :: r => dropKeyword .exist (dropKeyword .not r)
  | ts => ts

/-- The definition after the word TABLE, if it is complete, and what follows it. -/
def readTable (ts : List Token) : Option TableDef × List Token :=
  match readName (dropCondition ts) with
  | (some name, .lparen :: body) =>
    match splitBody 0 body with
    | (some parts, rest) =>
      (tableOf? name (parts.filterMap Element.ofTokens?), afterStatement rest)
    | (none, rest) => (none, rest)
  | (_, rest) => (none, afterStatement rest)

/-- The definition after the word CREATE, if it is one of a table, and what follows it. -/
def readCreate (ts : List Token) : Option TableDef × List Token :=
  match ts.dropWhile isModifier with
  | .keyword .table :: r => readTable r
  | rest => (none, afterStatement rest)

theorem length_dropCondition_le (ts : List Token) : (dropCondition ts).length ≤ ts.length := by
  unfold dropCondition
  split
  · exact Nat.le_succ_of_le
      (Nat.le_trans (length_dropKeyword_le _ _) (length_dropKeyword_le _ _))
  · simp

theorem length_readTable_le (ts : List Token) : (readTable ts).2.length ≤ ts.length := by
  have hname := length_readName_le (dropCondition ts)
  have hcond := length_dropCondition_le ts
  unfold readTable
  split
  · rename_i name body h
    have hbody := length_splitBody_le 0 body
    rw [h] at hname
    split
    · rename_i parts rest h'
      have := length_afterStatement_le rest
      simp_all
      omega
    · simp_all
      omega
  · rename_i rest _ h
    have := length_afterStatement_le rest
    simp_all
    omega

theorem length_readCreate_le (ts : List Token) : (readCreate ts).2.length ≤ ts.length := by
  have hdrop := (List.dropWhile_sublist isModifier (l := ts)).length_le
  unfold readCreate
  split
  · rename_i r h
    have := length_readTable_le r
    simp_all
    omega
  · exact Nat.le_trans (length_afterStatement_le _) hdrop

/-- The definitions of tables among some tokens. -/
def definitions : List Token → List TableDef
  | [] => []
  | .keyword .create :: r =>
    match _h : readCreate r with
    | (some d, rest) => d :: definitions rest
    | (none, rest) => definitions rest
  | _ :: r => definitions r
termination_by ts => ts.length
decreasing_by
  · have := length_readCreate_le r
    rw [_h] at this
    exact Nat.lt_succ_of_le this
  · have := length_readCreate_le r
    rw [_h] at this
    exact Nat.lt_succ_of_le this
  · exact Nat.lt_succ_self _

/-- The tables that some tokens define. -/
def tablesOf (ts : List Token) : List TableDef :=
  keepFirst (fun a b => namesMatch a.name b.name) (definitions ts)

/-- The tables that a script defines. -/
def parse (script : String) : List TableDef :=
  tablesOf (tokenize script)

end SchemaDesigner.Script
