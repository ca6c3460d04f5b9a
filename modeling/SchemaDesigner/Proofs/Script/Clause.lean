/-
Columns and keys as they are written, with every clause complete, and that they are read so.

* `DefaultClause`, `TargetClause`, `OptionClause`, `TypeClause`, `ColumnClause`: a column, its type
  with a size, and its options;
* `KeyClause`: a key or a reference of a single column, as a constraint of the table;
* `OptionClause.readOptions_join_append`: options are read one after the other, whatever their
  order;
* `ColumnClause.ofTokens?_tokens_append`, `KeyClause.ofTokens?_tokens`: the element that a clause
  is.
-/
import SchemaDesigner.Proofs.Name
import SchemaDesigner.Proofs.Script.Apart
import SchemaDesigner.Proofs.Script.Statement

namespace SchemaDesigner.Script

/-! ### Defaults and targets -/

/-- A default as it is written: a literal, a number, `NULL`, a word, a call or an expression in
parentheses. -/
inductive DefaultClause
  | literal (text : String)
  | prefixed (word text : String)
  | number (digits : String)
  | null
  | word (name : String)
  | call (name : String) (arguments : Group)
  | expression (g : Group)

namespace DefaultClause

/-- The tokens of the default. -/
def tokens : DefaultClause → List Token
  | literal text => [.str text]
  | prefixed w text => [.prefixed w text]
  | number digits => [.num digits]
  | null => [.keyword .null]
  | word name => [.ident name]
  | call name arguments => .ident name :: arguments.tokens
  | expression g => g.tokens

/-- The text that the default is kept as. -/
def text : DefaultClause → String
  | literal text => Script.literal text
  | prefixed w text => w ++ Script.literal text
  | number digits => digits
  | null => "NULL"
  | word name => name
  | call name arguments => name ++ (parenText 0 false arguments.tokens).1
  | expression g => (parenText 0 false g.tokens).1

lemma isPart_tokens (d : DefaultClause) : IsPart d.tokens := by
  cases d with
  | literal | prefixed | number | null | word => rfl
  | call name arguments => exact arguments.isPart_tokens.cons rfl
  | expression g => exact g.isPart_tokens

/-- A default is read up to its end, unless a parenthesis behind a word makes it a call. -/
lemma readDefault_tokens (d : DefaultClause) {rest : List Token}
    (hrest : rest.head? ≠ some .lparen) : readDefault (d.tokens ++ rest) = (some d.text, rest) := by
  cases d with
  | literal | prefixed | number | null => rfl
  | word name =>
    cases rest with
    | nil => rfl
    | cons t r =>
      cases t with
      | lparen => exact absurd rfl hrest
      | _ => rfl
  | call name arguments =>
    have htext := arguments.parenText_tokens rest
    rw [tokens, List.cons_append, text]
    rw [Group.tokens, List.cons_append] at htext ⊢
    rw [readDefault, htext]
  | expression g =>
    have htext := g.parenText_tokens rest
    rw [tokens, text]
    rw [Group.tokens, List.cons_append] at htext ⊢
    rw [readDefault, htext]

end DefaultClause

/-- The target of a reference as it is written: the table with its qualifiers, and the column. -/
structure TargetClause where
  qualifiers : List String
  target : Reference

namespace TargetClause

variable (t : TargetClause)

/-- The tokens of the target. -/
def tokens : List Token :=
  qualifierTokens t.qualifiers
    ++ [.ident t.target.table, .lparen, .ident t.target.column, .rparen]

lemma isPart_tokens : IsPart t.tokens :=
  IsPart.append (.flatMap fun _ _ => rfl) rfl

/-- A target is read as it is written, whatever follows it. -/
lemma readReference_tokens (rest : List Token) :
    readReference (t.tokens ++ rest) = (some t.target, rest) := by
  rw [tokens, List.append_assoc, readReference, List.cons_append, List.cons_append,
    readName_lparen]
  rfl

end TargetClause

/-! ### Options -/

/-- An option of a column as it is written. -/
inductive OptionClause
  | primaryKey
  | notNull
  | unique (withKey : Bool)
  | default (d : DefaultClause)
  | autoIncrement
  | counter (word : String) (arguments : Option Group) (h : isCountingWord word = true)
  | references (t : TargetClause)

/-- The tokens that options begin with. -/
def Token.beginsOption : Token → Bool
  | .keyword .primary | .keyword .not | .keyword .unique | .keyword .default
  | .keyword .autoIncrement | .keyword .references => true
  | .ident w => isCountingWord w
  | _ => false

namespace OptionClause

/-- The tokens of the option. -/
def tokens : OptionClause → List Token
  | primaryKey => [.keyword .primary, .keyword .key]
  | notNull => [.keyword .not, .keyword .null]
  | unique withKey => .keyword .unique :: if withKey then [.keyword .key] else []
  | default d => .keyword .default :: d.tokens
  | autoIncrement => [.keyword .autoIncrement]
  | counter word arguments _ => .ident word :: arguments.elim [] Group.tokens
  | references t => .keyword .references :: t.tokens

/-- What the option says. -/
def option : OptionClause → ColumnOption
  | primaryKey => .primaryKey
  | notNull => .notNull
  | unique _ => .unique
  | default d => .default (some d.text)
  | autoIncrement | counter _ _ _ => .autoIncrement
  | references t => .references t.target

/-- Options are written one behind the other. -/
def join (clauses : List OptionClause) : List Token :=
  clauses.flatMap tokens

lemma isPart_tokens (o : OptionClause) : IsPart o.tokens := by
  cases o with
  | primaryKey | notNull | autoIncrement => rfl
  | unique withKey => cases withKey <;> rfl
  | default d => exact d.isPart_tokens.cons rfl
  | counter word arguments hword =>
    cases arguments with
    | none => rfl
    | some g => exact g.isPart_tokens.cons rfl
  | references t => exact t.isPart_tokens.cons rfl

/-- The options of a column stand in one part of a body. -/
lemma isPart_join (clauses : List OptionClause) : IsPart (join clauses) :=
  .flatMap fun o _ => o.isPart_tokens

/-- An option begins with one of its own tokens. -/
lemma beginsOption_of_mem_head? (o : OptionClause) {t : Token} {rest : List Token}
    (h : t ∈ (o.tokens ++ rest).head?) : t.beginsOption = true := by
  cases o with
  | counter word arguments hword =>
    obtain rfl := Option.some.inj h
    exact hword
  | _ =>
    obtain rfl := Option.some.inj h
    rfl

/-- What follows an option in a list begins an option as well. -/
lemma beginsOption_of_mem_head?_join_append (clauses : List OptionClause) {rest : List Token}
    (hrest : ∀ t ∈ rest.head?, t.beginsOption = true) :
    ∀ t ∈ (join clauses ++ rest).head?, t.beginsOption = true := by
  cases clauses with
  | nil => exact hrest
  | cons o os =>
    intro t ht
    rw [join, List.flatMap_cons, List.append_assoc] at ht
    exact o.beginsOption_of_mem_head? ht

end OptionClause

section Begins

variable {rest : List Token}

lemma head?_ne_lparen (h : ∀ t ∈ rest.head?, t.beginsOption = true) :
    rest.head? ≠ some .lparen :=
  fun hparen => absurd (h _ hparen) Bool.false_ne_true

lemma dropKeyword_key_of_begins (h : ∀ t ∈ rest.head?, t.beginsOption = true) :
    dropKeyword .key rest = rest := by
  cases rest with
  | nil => rfl
  | cons t r =>
    cases t with
    | keyword k =>
      cases k with
      | key => exact absurd (h _ rfl) Bool.false_ne_true
      | _ => rfl
    | _ => rfl

lemma dropParens_of_begins (h : ∀ t ∈ rest.head?, t.beginsOption = true) :
    dropParens rest = rest := by
  cases rest with
  | nil => rfl
  | cons t r =>
    cases t with
    | lparen => exact absurd (h _ rfl) Bool.false_ne_true
    | _ => rfl

end Begins

namespace OptionClause

/-- An option is read up to the next one. -/
lemma readOptions_tokens_append (o : OptionClause) {rest : List Token}
    (hrest : ∀ t ∈ rest.head?, t.beginsOption = true) :
    readOptions (o.tokens ++ rest) = o.option :: readOptions rest := by
  cases o with
  | primaryKey => exact readOptions_cons_of_some rfl
  | notNull => exact readOptions_cons_of_some rfl
  | unique withKey =>
    cases withKey with
    | true => exact readOptions_cons_of_some rfl
    | false =>
      exact readOptions_cons_of_some (congrArg (Prod.mk _) (dropKeyword_key_of_begins hrest))
  | default d =>
    rw [tokens, List.cons_append]
    refine readOptions_cons_of_some ?_
    rw [readOption, d.readDefault_tokens (head?_ne_lparen hrest)]
    rfl
  | autoIncrement => exact readOptions_cons_of_some rfl
  | counter word arguments hword =>
    refine readOptions_cons_of_some ?_
    rw [readOption, if_pos hword]
    refine congrArg (Prod.mk _) ?_
    cases arguments with
    | none => exact dropParens_of_begins hrest
    | some g => exact g.afterParens_inside rest
  | references t =>
    rw [tokens, List.cons_append]
    refine readOptions_cons_of_some ?_
    rw [readOption, t.readReference_tokens]
    rfl

/-- Options are read one after the other, whatever their order, and so are those behind them. -/
lemma readOptions_join_append (clauses : List OptionClause) {rest : List Token}
    (hrest : ∀ t ∈ rest.head?, t.beginsOption = true) :
    readOptions (join clauses ++ rest) = clauses.map option ++ readOptions rest := by
  induction clauses with
  | nil => rfl
  | cons o os ih =>
    rw [join, List.flatMap_cons, List.append_assoc, o.readOptions_tokens_append, List.map_cons,
      List.cons_append]
    · exact congrArg _ ih
    · exact beginsOption_of_mem_head?_join_append os hrest

end OptionClause

/-! ### Types -/

/-- A type as it is written: one word, or two that are known together. -/
inductive TypeClause
  | word (first : String)
  | words (first second : String) (h : (twoWordType? first second).isSome = true)

namespace TypeClause

/-- The tokens of the type. -/
def tokens : TypeClause → List Token
  | word first => [.ident first]
  | words first second _ => [.ident first, .ident second]

/-- The type, and whether it counts up by itself. -/
def read : TypeClause → ColumnType × Bool
  | word first => ((ColumnType.ofSerial? first).getD (oneWordType first),
    (ColumnType.ofSerial? first).isSome)
  | words first second h => ((twoWordType? first second).get h, false)

end TypeClause

/-- The first of two words for a type is not the name of a serial type. -/
lemma ofSerial?_of_twoWordType? {first second : String}
    (h : (twoWordType? first second).isSome = true) : ColumnType.ofSerial? first = none := by
  rw [ColumnType.ofSerial?]
  rw [twoWordType?] at h
  split at h <;> simp_all

/-- The words for a column that counts up are no second words of a type. -/
lemma twoWordType?_of_isCountingWord {first w : String} (h : isCountingWord w = true) :
    twoWordType? first w = none := by
  have hupper : Text.upper w = "IDENTITY" ∨ Text.upper w = "SERIAL" := by
    have hidentity : Text.upper "IDENTITY" = "IDENTITY" := by decide
    have hserial : Text.upper "SERIAL" = "SERIAL" := by decide
    rcases Bool.or_eq_true_iff.mp h with hmatch | hmatch
    · exact .inl ((Text.upper_eq_of_match hmatch).trans hidentity)
    · exact .inr ((Text.upper_eq_of_match hmatch).trans hserial)
  rw [twoWordType?]
  rcases hupper with hupper | hupper
  · rw [hupper]
    split <;> simp_all
  · rw [hupper]
    split <;> simp_all

namespace TypeClause

/-- A type is read up to its end, if a parenthesis or an option follows. -/
lemma exists_readType_tokens (type : TypeClause) {rest : List Token}
    (hrest : ∀ t ∈ rest.head?, t = .lparen ∨ t.beginsOption = true) :
    ∃ first r, type.tokens ++ rest = .ident first :: r
      ∧ readType first r = (type.read.1, type.read.2, rest) := by
  cases type with
  | word first =>
    refine ⟨first, rest, rfl, ?_⟩
    cases hserial : ColumnType.ofSerial? first with
    | some t => simp [readType, read, hserial]
    | none =>
      cases rest with
      | nil => simp [readType, read, hserial]
      | cons t r =>
        cases t with
        | ident second =>
          have hcounting := (hrest _ rfl).resolve_left Token.noConfusion
          simp [readType, read, hserial, twoWordType?_of_isCountingWord hcounting]
        | _ => simp [readType, read, hserial]
  | words first second h =>
    refine ⟨first, .ident second :: rest, rfl, ?_⟩
    obtain ⟨t, ht⟩ := Option.isSome_iff_exists.mp h
    simp [readType, read, ofSerial?_of_twoWordType? h, ht]

end TypeClause

/-! ### Columns -/

/-- Options do not change the name of a column. -/
lemma name_foldl_apply (os : List ColumnOption) (c : ColumnDef) :
    (os.foldl ColumnOption.apply c).name = c.name := by
  induction os generalizing c with
  | nil => rfl
  | cons o os ih =>
    rw [List.foldl_cons, ih]
    cases o <;> rfl

/-- A column as it is written: its name, its type with a size, and its options. -/
structure ColumnClause where
  name : String
  type : TypeClause
  size : Option Group
  options : List OptionClause

namespace ColumnClause

variable (c : ColumnClause)

/-- The tokens of the size. -/
def sizeTokens : List Token :=
  c.size.elim [] Group.tokens

/-- The tokens of the column. -/
def tokens : List Token :=
  .ident c.name :: (c.type.tokens ++ (c.sizeTokens ++ OptionClause.join c.options))

/-- The column without its options. -/
def bare : ColumnDef :=
  { name := c.name
    type := c.type.read.1
    size := c.size.bind fun g => Text.nonEmpty? (some (sizeText 0 g.inside).1)
    autoIncrement := c.type.read.2 }

lemma isPart_tokens : IsPart c.tokens := by
  have htype : IsPart c.type.tokens := by
    cases c.type <;> rfl
  have hsize : IsPart c.sizeTokens := by
    rw [sizeTokens]
    cases c.size with
    | none => rfl
    | some g => exact g.isPart_tokens
  exact (htype.append (hsize.append (OptionClause.isPart_join c.options))).cons rfl

/-- A size is read as it is written, in front of an option. -/
lemma readSize_tokens {rest : List Token} (hrest : ∀ t ∈ rest.head?, t.beginsOption = true) :
    readSize (c.sizeTokens ++ rest) = (c.bare.size, rest) := by
  rw [sizeTokens, bare]
  cases c.size with
  | none =>
    have hparen := head?_ne_lparen hrest
    cases rest with
    | nil => rfl
    | cons t r =>
      cases t with
      | lparen => exact absurd rfl hparen
      | _ => rfl
  | some g =>
    have hsize := g.sizeText_inside rest
    rw [Option.elim_some, Group.tokens, List.cons_append, readSize, hsize]
    rfl

/-- A column is read as it is written, with other options behind it: all of these change it one
after the other. -/
lemma ofTokens?_tokens_append {rest : List Token}
    (hrest : ∀ t ∈ rest.head?, t.beginsOption = true) :
    Element.ofTokens? (c.tokens ++ rest)
      = some (.column ((c.options.map OptionClause.option ++ readOptions rest).foldl
        ColumnOption.apply c.bare)) := by
  have hoptions := OptionClause.beginsOption_of_mem_head?_join_append c.options hrest
  have hbehind : ∀ t ∈ (c.sizeTokens ++ (OptionClause.join c.options ++ rest)).head?,
      t = .lparen ∨ t.beginsOption = true := by
    intro t ht
    rw [sizeTokens] at ht
    cases hsize : c.size with
    | none =>
      rw [hsize] at ht
      exact .inr (hoptions t ht)
    | some g =>
      rw [hsize] at ht
      exact .inl (Option.some.inj ht).symm
  obtain ⟨first, r, htype, hread⟩ := c.type.exists_readType_tokens hbehind
  have hcolumn : Element.ofTokens? (.ident c.name :: .ident first :: r)
      = (readColumn? (.ident c.name :: .ident first :: r)).map .column := rfl
  rw [tokens, List.cons_append, List.append_assoc, List.append_assoc, htype, hcolumn,
    readColumn?_cons, hread, c.readSize_tokens hoptions,
    OptionClause.readOptions_join_append _ hrest]
  rfl

/-- A column is read as it is written: its options change it one after the other. -/
lemma ofTokens?_tokens : Element.ofTokens? c.tokens
    = some (.column ((c.options.map OptionClause.option).foldl ColumnOption.apply c.bare)) := by
  have hnothing : ∀ t ∈ ([] : List Token).head?, t.beginsOption = true :=
    fun t ht => absurd ht (by simp)
  have hcolumn := c.ofTokens?_tokens_append hnothing
  rwa [List.append_nil, readOptions_nil, List.append_nil] at hcolumn

end ColumnClause

/-! ### Keys -/

/-- A key or a reference of a single column, as a constraint of the table. -/
inductive KeyClause
  | primaryKey (column : String)
  | unique (column : String)
  | foreignKey (column : String) (t : TargetClause)

namespace KeyClause

/-- The name of the column. -/
def column : KeyClause → String
  | primaryKey column | unique column | foreignKey column _ => column

/-- The tokens of the constraint. -/
def tokens : KeyClause → List Token
  | primaryKey column => [.keyword .primary, .keyword .key, .lparen, .ident column, .rparen]
  | unique column => [.keyword .unique, .lparen, .ident column, .rparen]
  | foreignKey column t => .keyword .foreign :: .keyword .key :: .lparen :: .ident column
    :: .rparen :: .keyword .references :: t.tokens

/-- What the constraint says of its column, as an option. -/
def option : KeyClause → ColumnOption
  | primaryKey _ => .primaryKey
  | unique _ => .unique
  | foreignKey _ t => .references t.target

/-- The constraint. -/
def constraint : KeyClause → Constraint
  | primaryKey column => .primaryKey column
  | unique column => .unique column
  | foreignKey column t => .foreignKey column t.target

/-- A constraint is read as it is written. -/
lemma ofTokens?_tokens (k : KeyClause) :
    Element.ofTokens? k.tokens = some (.constraint k.constraint) := by
  cases k with
  | primaryKey column | unique column => rfl
  | foreignKey column t =>
    have htarget := t.readReference_tokens []
    rw [List.append_nil] at htarget
    have hcolumn : readSingleColumn (dropIdent (.lparen :: .ident column :: .rparen
        :: .keyword .references :: t.tokens))
        = (some column, .keyword .references :: t.tokens) := rfl
    have hconstraint : Element.ofTokens? (foreignKey column t).tokens
        = (readConstraint? (foreignKey column t).tokens).map .constraint := rfl
    rw [hconstraint, tokens, readConstraint?, hcolumn]
    dsimp only
    rw [htarget]
    rfl

end KeyClause

end SchemaDesigner.Script
