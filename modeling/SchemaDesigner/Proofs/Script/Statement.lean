/-
Statements that define a table.

* `Statement`: what is written in one, with all that may stand around the name and the body;
* `Statement.table?`: the table of the name and the body alone;
* `tablesOf_tokens`: a statement defines this table.
-/
import SchemaDesigner.Proofs.Script.Nesting
import SchemaDesigner.Proofs.Script.Recovery

namespace SchemaDesigner.Script

/-! ### Names -/

/-- The parts of a name in front of its last one, each with a dot behind it. -/
def qualifierTokens (qualifiers : List String) : List Token :=
  qualifiers.flatMap fun q => [.ident q, .dot]

/-- Only the last part of a name counts. -/
lemma readName_qualifierTokens (qualifiers : List String) (name : String) (r : List Token) :
    readName (qualifierTokens qualifiers ++ .ident name :: r) = readQualified name r := by
  induction qualifiers with
  | nil => rfl
  | cons q qs ih =>
    have hnext : readName (qualifierTokens (q :: qs) ++ .ident name :: r)
        = readName (qualifierTokens qs ++ .ident name :: r) := by
      cases qs <;> rfl
    rw [hnext, ih]

/-- A name ends in front of a parenthesis. -/
lemma readName_lparen (qualifiers : List String) (name : String) (r : List Token) :
    readName (qualifierTokens qualifiers ++ .ident name :: .lparen :: r)
      = (some name, .lparen :: r) := by
  rw [readName_qualifierTokens]
  rfl

/-! ### Statements -/

/-- A statement that defines a table: words between CREATE and TABLE, maybe the condition that the
table does not exist, the name with its qualifiers, the body, and what stands between the body and
the semicolon. -/
structure Statement where
  modifiers : List String
  isConditional : Bool
  qualifiers : List String
  name : String
  body : Group
  trailing : List Token
  isModifier : ∀ w ∈ modifiers, isModifier (.ident w) = true
  staysInside : ∀ t ∈ trailing, t ≠ .semicolon ∧ t ≠ .keyword .create

namespace Statement

/-- The statement of a name and a body alone. -/
def plain (name : String) (body : Group) : Statement where
  modifiers := []
  isConditional := false
  qualifiers := []
  name := name
  body := body
  trailing := []
  isModifier := fun _ h => absurd h List.not_mem_nil
  staysInside := fun _ h => absurd h List.not_mem_nil

variable (s : Statement)

/-- The condition that the table does not exist, if it is written. -/
def condition : List Token :=
  if s.isConditional then [.keyword .ifWord, .keyword .not, .keyword .exist] else []

/-- The tokens behind the word TABLE. -/
def definition : List Token :=
  s.condition ++ (qualifierTokens s.qualifiers ++ .ident s.name
    :: (s.body.tokens ++ (s.trailing ++ [.semicolon])))

/-- The tokens of the statement. -/
def tokens : List Token :=
  .keyword .create :: (s.modifiers.map .ident ++ .keyword .table :: s.definition)

/-- The table of the name and the body. -/
def table? : Option TableDef :=
  tableOf? s.name (s.body.parts.filterMap Element.ofTokens?)

lemma afterStatement_trailing {trailing : List Token}
    (h : ∀ t ∈ trailing, t ≠ .semicolon ∧ t ≠ .keyword .create) (rest : List Token) :
    afterStatement (trailing ++ .semicolon :: rest) = rest := by
  induction trailing with
  | nil => rfl
  | cons t ts ih =>
    obtain ⟨⟨hsemicolon, hcreate⟩, hts⟩ := List.forall_mem_cons.mp h
    rw [List.cons_append, afterStatement_cons hsemicolon hcreate]
    exact ih hts

lemma dropWhile_modifiers {modifiers : List String}
    (h : ∀ w ∈ modifiers, Script.isModifier (.ident w) = true) (r : List Token) :
    (modifiers.map Token.ident ++ .keyword .table :: r).dropWhile Script.isModifier
      = .keyword .table :: r := by
  rw [List.dropWhile_append_of_pos (List.forall_mem_map.mpr h)]
  rfl

lemma dropCondition_condition (r : List Token) :
    dropCondition (s.condition ++ (qualifierTokens s.qualifiers ++ .ident s.name :: r))
      = qualifierTokens s.qualifiers ++ .ident s.name :: r := by
  rw [condition]
  split_ifs
  · cases s.qualifiers <;> rfl
  · cases s.qualifiers <;> rfl

/-- What stands around the name and the body is passed over. -/
lemma readTable_definition (rest : List Token) :
    readTable (s.definition ++ rest) = (s.table?, rest) := by
  have hbody := s.body.splitBody_inside (s.trailing ++ .semicolon :: rest)
  have htokens : s.definition ++ rest = s.condition ++ (qualifierTokens s.qualifiers
      ++ .ident s.name :: .lparen :: (s.body.inside ++ (s.trailing ++ .semicolon :: rest))) := by
    simp [definition, Group.tokens]
  rw [htokens, readTable, dropCondition_condition, readName_lparen]
  dsimp only
  rw [hbody]
  exact congrArg (Prod.mk s.table?) (afterStatement_trailing s.staysInside rest)

/-- A statement defines the table of its name and its body, and what follows is read as if it
stood alone. -/
theorem definitions_tokens_append (rest : List Token) :
    definitions (s.tokens ++ rest) = s.table?.toList ++ definitions rest := by
  have hcreate : readCreate (s.modifiers.map .ident ++ .keyword .table :: s.definition ++ rest)
      = (s.table?, rest) := by
    rw [List.append_assoc, List.cons_append, readCreate, dropWhile_modifiers s.isModifier]
    exact s.readTable_definition rest
  rw [tokens, List.cons_append]
  cases htable : s.table? with
  | none =>
    rw [htable] at hcreate
    exact definitions_create_of_none hcreate
  | some t =>
    rw [htable] at hcreate
    exact definitions_create_of_some hcreate

/-- A statement alone defines its table, if its body makes one up. -/
theorem tablesOf_tokens : tablesOf s.tokens = s.table?.toList := by
  have hdefinitions := s.definitions_tokens_append []
  rw [List.append_nil, definitions_nil, List.append_nil] at hdefinitions
  rw [tablesOf, hdefinitions]
  cases s.table? <;> rfl

end Statement

end SchemaDesigner.Script
