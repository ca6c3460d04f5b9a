/-
The options after the type of a column.

* `ColumnOption`: the options that a column keeps;
* `readOption`: the option that begins with a token, if one does, and what follows;
* `readOptions`: all options of a list of tokens. What is no option is skipped;
* `ColumnOption.apply`: what an option changes in a column.
-/
import SchemaDesigner.Script.Phrase

namespace SchemaDesigner.Script

/-- An option of a column. A default may be one that cannot be read and counts as none. -/
inductive ColumnOption
  | primaryKey
  | notNull
  | unique
  | default (value : Option String)
  | autoIncrement
  | references (r : Reference)
  deriving DecidableEq, Repr

/-- The column with an option. -/
def ColumnOption.apply (c : ColumnDef) : ColumnOption → ColumnDef
  | primaryKey => c.asPrimaryKey
  | notNull => { c with nullable := false }
  | unique => { c with unique := true }
  | default value => { c with defaultValue := value }
  | autoIncrement => { c with autoIncrement := true }
  | references r => { c with reference := some r }

/-- The tokens without a keyword in front. -/
def dropKeyword (k : Keyword) : List Token → List Token
  | .keyword k' :: r => if k' = k then r else .keyword k' :: r
  | ts => ts

/-- The tokens without parentheses in front. -/
def dropParens : List Token → List Token
  | .lparen :: r => afterParens 0 r
  | ts => ts

/-- The words, in any case, for a column that counts up by itself. -/
def isCountingWord (w : String) : Bool :=
  namesMatch w "IDENTITY" || namesMatch w "SERIAL"

/-- The option that begins with a token, if one does, and what follows it. -/
def readOption (t : Token) (r : List Token) : Option ColumnOption × List Token :=
  match t with
  | .keyword .primary => (some .primaryKey, dropKeyword .key r)
  | .keyword .not =>
    match r with
    | .keyword .null :: s => (some .notNull, s)
    | _ => (none, r)
  | .keyword .unique => (some .unique, dropKeyword .key r)
  | .keyword .default => (some (.default (readDefault r).1), (readDefault r).2)
  | .keyword .autoIncrement => (some .autoIncrement, r)
  | .keyword .references => ((readReference r).1.map .references, (readReference r).2)
  | .lparen => (none, afterParens 0 r)
  | .ident w => if isCountingWord w then (some .autoIncrement, dropParens r) else (none, r)
  | _ => (none, r)

theorem length_dropKeyword_le (k : Keyword) (ts : List Token) :
    (dropKeyword k ts).length ≤ ts.length := by
  unfold dropKeyword
  split
  · split <;> simp
  · simp

theorem length_dropParens_le (ts : List Token) : (dropParens ts).length ≤ ts.length := by
  unfold dropParens
  split
  · exact Nat.le_succ_of_le (length_afterParens_le _ _)
  · simp

theorem length_readOption_le (t : Token) (r : List Token) :
    (readOption t r).2.length ≤ r.length := by
  unfold readOption
  split
  · exact length_dropKeyword_le _ _
  · split <;> simp
  · exact length_dropKeyword_le _ _
  · exact length_readDefault_le _
  · simp
  · exact length_readReference_le _
  · exact length_afterParens_le _ _
  · split
    · exact length_dropParens_le _
    · simp
  · simp

/-- The options of a list of tokens. -/
def readOptions : List Token → List ColumnOption
  | [] => []
  | t :: r =>
    match _h : readOption t r with
    | (some o, rest) => o :: readOptions rest
    | (none, rest) => readOptions rest
termination_by ts => ts.length
decreasing_by
  all_goals
    have := length_readOption_le t r
    rw [_h] at this
    exact Nat.lt_succ_of_le this

end SchemaDesigner.Script
