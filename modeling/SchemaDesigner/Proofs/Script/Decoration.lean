/-
What may be written in a statement without a change to the table that it defines.

* `KeyHead`: the beginning of a key of a table, with a label, the kind and a name;
* `namesInFront`: the names up to the first closing parenthesis, which a list of columns is read as;
* `DecoratesPart`: names and labels of keys, qualifiers of a referenced table, and what follows a
  complete foreign key;
* `IsExtra`: checks, indexes and keys that are not read as keys of a single column;
* `tablesOf_decorated`: none of these counts, and neither does what stands around the body;
* `ofTokens?_key_eq_none_iff`: which keys are not read as keys of a single column.
-/
import Mathlib.Logic.Relation
import SchemaDesigner.Proofs.Script.Apart
import SchemaDesigner.Proofs.Script.Statement

namespace SchemaDesigner.Script

/-! ### Names of keys -/

/-- The kinds of keys of a table, by the words that they begin with. -/
inductive KeyKind
  | primaryKey
  | unique
  | uniqueKey
  | uniqueIndex
  | foreignKey
  deriving DecidableEq, Repr

/-- The words of the kind. -/
def KeyKind.tokens : KeyKind → List Token
  | primaryKey => [.keyword .primary, .keyword .key]
  | unique => [.keyword .unique]
  | uniqueKey => [.keyword .unique, .keyword .key]
  | uniqueIndex => [.keyword .unique, .keyword .index]
  | foreignKey => [.keyword .foreign, .keyword .key]

/-- The beginning of a key of a table up to its list of columns: maybe a label in front, and a name
behind the kind, which a primary key does not have. -/
structure KeyHead where
  label : Option String
  kind : KeyKind
  name : Option String
  unnamed : kind = .primaryKey → name = none

/-- The label of an element. -/
def labelTokens : Option String → List Token
  | none => []
  | some label => [.keyword .constraint, .ident label]

/-- The tokens in front of the list of columns. -/
def KeyHead.tokens (h : KeyHead) : List Token :=
  labelTokens h.label ++ (h.kind.tokens ++ h.name.elim [] fun name => [.ident name])

lemma dropConstraintName_labelTokens (label : Option String) {k : Keyword} (hk : k ≠ .constraint)
    (r : List Token) :
    dropConstraintName (labelTokens label ++ .keyword k :: r) = .keyword k :: r := by
  cases label with
  | none =>
    cases k with
    | constraint => exact absurd rfl hk
    | _ => rfl
  | some label => rfl

lemma ofTokens?_labelTokens (label : Option String) {k : Keyword} (hk : k ≠ .constraint)
    (r : List Token) :
    Element.ofTokens? (labelTokens label ++ .keyword k :: r)
      = (readConstraint? (.keyword k :: r)).map .constraint := by
  rw [Element.ofTokens?, dropConstraintName_labelTokens label hk]

/-- Neither the label nor the name of a key counts. -/
lemma KeyHead.ofTokens?_eq (h : KeyHead) (r : List Token) :
    Element.ofTokens? (h.tokens ++ .lparen :: r)
      = (readConstraint? (h.kind.tokens ++ .lparen :: r)).map .constraint := by
  obtain ⟨label, kind, name, hname⟩ := h
  rw [tokens, List.append_assoc, List.append_assoc]
  cases kind with
  | primaryKey =>
    obtain rfl := hname rfl
    exact ofTokens?_labelTokens label (by decide) _
  | unique | uniqueKey | uniqueIndex | foreignKey =>
    refine (ofTokens?_labelTokens label (by decide) _).trans ?_
    cases name <;> rfl

/-! ### Lists of columns -/

/-- The names up to the first closing parenthesis, whichever parenthesis it closes. -/
def namesInFront : List Token → List String
  | [] => []
  | .rparen :: _ => []
  | .ident name :: r => name :: namesInFront r
  | _ :: r => namesInFront r

lemma fst_readIdents {ts : List Token} (h : .rparen ∈ ts) :
    (readIdents ts).1 = some (namesInFront ts) := by
  fun_induction readIdents ts with
  | case1 => cases h
  | case2 => rfl
  | case3 name r ih =>
    rw [namesInFront, ih ((List.mem_cons.mp h).resolve_left Token.noConfusion)]
    rfl
  | case4 t r hrparen hident ih =>
    rw [namesInFront, ih ((List.mem_cons.mp h).resolve_left fun h => hrparen h.symm)]
    all_goals assumption

lemma namesInFront_append {ts : List Token} (h : .rparen ∈ ts) (us : List Token) :
    namesInFront (ts ++ us) = namesInFront ts := by
  fun_induction namesInFront ts with
  | case1 => cases h
  | case2 => rfl
  | case3 name r ih =>
    rw [List.cons_append, namesInFront,
      ih ((List.mem_cons.mp h).resolve_left Token.noConfusion)]
  | case4 t r hrparen hident ih =>
    rw [List.cons_append, namesInFront,
      ih ((List.mem_cons.mp h).resolve_left fun h => hrparen h.symm)]
    all_goals assumption

lemma Group.rparen_mem_inside (g : Group) : .rparen ∈ g.inside :=
  List.mem_append_right _ (List.mem_singleton_self _)

/-- A single column is read off a list exactly if one name stands in front of the first closing
parenthesis. -/
lemma fst_readSingleColumn (g : Group) (rest : List Token) :
    (readSingleColumn (g.tokens ++ rest)).1
      = if (namesInFront g.inside).length = 1 then (namesInFront g.inside).head? else none := by
  have hnames : (readIdents (g.inside ++ rest)).1 = some (namesInFront g.inside) := by
    rw [fst_readIdents (List.mem_append_left _ g.rparen_mem_inside),
      namesInFront_append g.rparen_mem_inside]
  rw [Group.tokens, List.cons_append, readSingleColumn, readColumnList]
  generalize readIdents (g.inside ++ rest) = p at hnames
  obtain ⟨names, rest'⟩ := p
  obtain rfl : names = _ := hnames
  generalize namesInFront g.inside = names
  rcases names with _ | ⟨a, _ | ⟨b, names⟩⟩
  · rfl
  · rfl
  · rfl

lemma fst_readSingleColumn_of_ne_one {g : Group} (h : (namesInFront g.inside).length ≠ 1)
    (rest : List Token) : (readSingleColumn (g.tokens ++ rest)).1 = none :=
  (fst_readSingleColumn g rest).trans (if_neg h)

lemma KeyKind.readConstraint?_foreignKey (r : List Token) :
    readConstraint? (foreignKey.tokens ++ .lparen :: r)
      = match readSingleColumn (.lparen :: r) with
        | (some column, .keyword .references :: rest) =>
          (readReference rest).1.map (.foreignKey column)
        | _ => none := rfl

/-- A key without a single column is not read. -/
lemma KeyKind.readConstraint?_eq_none {kind : KeyKind} {r : List Token}
    (h : (readSingleColumn (.lparen :: r)).1 = none) :
    readConstraint? (kind.tokens ++ .lparen :: r) = none := by
  cases kind with
  | primaryKey | unique | uniqueKey | uniqueIndex => exact congrArg (Option.map _) h
  | foreignKey =>
    rw [readConstraint?_foreignKey]
    generalize readSingleColumn (.lparen :: r) = p at h
    obtain ⟨column, rest⟩ := p
    obtain rfl : column = none := h
    rfl

lemma namesInFront_append_of_notMem {ts : List Token} (h : .rparen ∉ ts) (us : List Token) :
    namesInFront (ts ++ us) = namesInFront ts ++ namesInFront us := by
  fun_induction namesInFront ts with
  | case1 => rfl
  | case2 r => exact absurd List.mem_cons_self h
  | case3 name r ih =>
    rw [List.cons_append, namesInFront, ih fun hr => h (List.mem_cons_of_mem _ hr),
      List.cons_append]
  | case4 t r hrparen hident ih =>
    rw [List.cons_append, namesInFront, ih fun hr => h (List.mem_cons_of_mem _ hr)]
    all_goals assumption

lemma mem_namesInFront {ts : List Token} {name : String} (h : .rparen ∉ ts)
    (hname : .ident name ∈ ts) : name ∈ namesInFront ts := by
  obtain ⟨us, vs, rfl⟩ := List.append_of_mem hname
  have hus : .rparen ∉ us := fun hmem => h (List.mem_append_left _ hmem)
  rw [namesInFront_append_of_notMem hus]
  exact List.mem_append_right _ List.mem_cons_self

lemma length_le_length_namesInFront_joined {first : List Token} {others : List (List Token)}
    (hident : ∀ p ∈ first :: others, ∃ name, .ident name ∈ p)
    (hplain : ∀ p ∈ first :: others, .rparen ∉ p) :
    (first :: others).length ≤ (namesInFront (joined first others ++ [.rparen])).length := by
  induction others generalizing first with
  | nil =>
    obtain ⟨name, hname⟩ := hident first List.mem_cons_self
    have hfirst := hplain first List.mem_cons_self
    rw [joined, List.flatMap_nil, List.append_nil, namesInFront_append_of_notMem hfirst]
    exact List.length_pos_of_mem (List.mem_append_left _ (mem_namesInFront hfirst hname))
  | cons p ps ih =>
    obtain ⟨name, hname⟩ := hident first List.mem_cons_self
    have hfirst := hplain first List.mem_cons_self
    have hone := List.length_pos_of_mem (mem_namesInFront hfirst hname)
    have hothers := ih (fun q hq => hident q (List.mem_cons_of_mem first hq))
      fun q hq => hplain q (List.mem_cons_of_mem first hq)
    have hcomma : namesInFront (.comma :: (joined p ps ++ [.rparen]))
        = namesInFront (joined p ps ++ [.rparen]) := rfl
    rw [joined_cons, List.append_assoc, List.cons_append, namesInFront_append_of_notMem hfirst,
      hcomma, List.length_append]
    simp only [List.length_cons] at hothers ⊢
    omega

/-- A list of several columns has several names, if it has no parentheses of its own. -/
lemma length_namesInFront_ne_one {g : Group} (hcolumns : 2 ≤ g.parts.length)
    (hident : ∀ p ∈ g.parts, ∃ name, .ident name ∈ p) (hplain : ∀ p ∈ g.parts, .rparen ∉ p) :
    (namesInFront g.inside).length ≠ 1 := by
  have hlength : g.parts.length ≤ (namesInFront g.inside).length :=
    length_le_length_namesInFront_joined hident hplain
  omega

/-! ### Foreign keys -/

section Complete

variable {ts us : List Token}

lemma readsApart_readIdents_of_isSome (h : (readIdents ts).1.isSome = true) (us : List Token) :
    ReadsApart readIdents ts us := by
  rw [ReadsApart]
  fun_induction readIdents ts with
  | case1 => cases h
  | case2 r => rfl
  | case3 name r ih =>
    rw [Option.isSome_map] at h
    rw [List.cons_append, readIdents, ih h]
  | case4 t r hrparen hident ih =>
    rw [List.cons_append, readIdents, ih h]
    all_goals assumption

lemma readsApart_readColumnList_of_isSome (h : (readColumnList ts).1.isSome = true)
    (us : List Token) : ReadsApart readColumnList ts us := by
  cases ts with
  | nil => cases h
  | cons t r =>
    cases t with
    | lparen => exact readsApart_readIdents_of_isSome h us
    | _ => cases h

/-- A single column in parentheses is read apart from what follows. -/
lemma readsApart_readSingleColumn_of_isSome (h : (readSingleColumn ts).1.isSome = true)
    (us : List Token) : ReadsApart readSingleColumn ts us := by
  have hlist : (readColumnList ts).1.isSome = true := by
    rw [readSingleColumn] at h
    split at h
    · rename_i hread
      rw [hread]
      rfl
    · cases h
  exact readsApart_readSingleColumn (readsApart_readColumnList_of_isSome hlist us)

/-- A reference that is complete is read whatever follows. -/
lemma fst_readReference_append {r : Reference} (h : (readReference ts).1 = some r)
    (us : List Token) : (readReference (ts ++ us)).1 = some r := by
  rw [readReference] at h ⊢
  cases hname : readName ts with
  | mk name rest =>
    rw [hname] at h
    cases name with
    | none => cases h
    | some table =>
      have hlist : (readColumnList rest).1.isSome = true := by
        dsimp only at h
        split at h
        · rename_i hread
          rw [hread]
          rfl
        · cases h
      have hrest : (readName ts).2 ≠ [] := by
        rw [hname]
        rintro rfl
        cases hlist
      rw [readsApart_readName fun hnil => absurd hnil hrest, hname]
      dsimp only at h ⊢
      rw [readsApart_readColumnList_of_isSome hlist us]
      generalize readColumnList rest = p at h
      obtain ⟨columns, rest'⟩ := p
      rcases columns with _ | _ | ⟨column, _ | _⟩
      · cases h
      · cases h
      · exact h
      · cases h

/-- A foreign key that is complete is read whatever follows. -/
lemma readConstraint?_append_of_foreignKey {column : String} {r : Reference}
    (h : readConstraint? ts = some (.foreignKey column r)) (us : List Token) :
    readConstraint? (ts ++ us) = some (.foreignKey column r) := by
  rw [readConstraint?.eq_def] at h
  split at h
  case h_5 ts =>
    split at h
    · rename_i name rest hread
      obtain ⟨target, htarget, hconstraint⟩ := Option.map_eq_some_iff.mp h
      obtain ⟨rfl, rfl⟩ := Constraint.foreignKey.inj hconstraint
      have hcolumn : (readSingleColumn (dropIdent ts)).1.isSome = true := by
        rw [hread]
        rfl
      have hne : dropIdent ts ≠ [] := by
        intro hnil
        rw [hnil] at hread
        cases hread
      rw [List.cons_append, List.cons_append, readConstraint?, dropIdent_append fun hnil =>
        absurd hnil hne, readsApart_readSingleColumn_of_isSome hcolumn, hread]
      dsimp only [List.cons_append]
      rw [fst_readReference_append htarget]
      rfl
    · cases h
  case h_6 => cases h
  all_goals
    obtain ⟨_, _, hconstraint⟩ := Option.map_eq_some_iff.mp h
    cases hconstraint

/-- A foreign key that is complete is an element whatever follows. -/
lemma ofTokens?_append_of_foreignKey {column : String} {r : Reference}
    (h : Element.ofTokens? ts = some (.constraint (.foreignKey column r))) (us : List Token) :
    Element.ofTokens? (ts ++ us) = some (.constraint (.foreignKey column r)) := by
  have hne : dropConstraintName ts ≠ [] := by
    intro hnil
    rw [Element.ofTokens?, hnil] at h
    cases h
  rw [Element.ofTokens?] at h
  rw [Element.ofTokens?, dropConstraintName_append fun hnil => absurd hnil hne]
  generalize dropConstraintName ts = rest at h hne
  cases rest with
  | nil => exact absurd rfl hne
  | cons t rest =>
    cases t with
    | ident name =>
      obtain ⟨c, _, hc⟩ := Option.map_eq_some_iff.mp h
      cases hc
    | _ =>
      obtain ⟨c, hc, hconstraint⟩ := Option.map_eq_some_iff.mp h
      obtain rfl := Element.constraint.inj hconstraint
      exact congrArg (Option.map Element.constraint) (readConstraint?_append_of_foreignKey hc us)

/-- A foreign key is not read if something other than a reference follows the first closing
parenthesis. -/
lemma readConstraint?_foreignKey_eq_none {g : Group} (hinside : (readIdents g.inside).2 ≠ [])
    (hbehind : (readIdents g.inside).2.head? ≠ some (.keyword .references)) (rest : List Token) :
    readConstraint? (KeyKind.foreignKey.tokens ++ .lparen :: (g.inside ++ rest)) = none := by
  have hidents : (readIdents g.inside).1.isSome = true := by
    rw [fst_readIdents g.rparen_mem_inside]
    rfl
  rw [KeyKind.readConstraint?_foreignKey, readSingleColumn, readColumnList,
    readsApart_readIdents_of_isSome hidents]
  generalize readIdents g.inside = p at hinside hbehind
  obtain ⟨names, behind⟩ := p
  cases behind with
  | nil => exact absurd rfl hinside
  | cons t behind =>
    rcases names with _ | _ | ⟨column, _ | _⟩
    · rfl
    · rfl
    · cases t with
      | keyword k =>
        cases k with
        | references => exact absurd rfl hbehind
        | _ => rfl
      | _ => rfl
    · rfl

end Complete

/-! ### Decorations -/

/-- A part of a body is decorated: a key gets a label, it has another label or name, a referenced
table has a qualifier more, or something follows a complete foreign key. -/
inductive DecoratesPart : List Token → List Token → Prop
  | label {k : Keyword} (hk : k = .primary ∨ k = .unique ∨ k = .foreign) (name : String)
    (r : List Token) :
    DecoratesPart (.keyword k :: r) (labelTokens (some name) ++ .keyword k :: r)
  | naming {h h' : KeyHead} (hkind : h'.kind = h.kind) (r : List Token) :
    DecoratesPart (h.tokens ++ .lparen :: r) (h'.tokens ++ .lparen :: r)
  | qualifier {front : List Token} (h : IsShut front) (q table : String) (r : List Token) :
    DecoratesPart (front ++ .keyword .references :: .ident table :: r)
      (front ++ .keyword .references :: .ident q :: .dot :: .ident table :: r)
  | trailing {p : List Token} {column : String} {r : Reference}
    (h : Element.ofTokens? p = some (.constraint (.foreignKey column r))) (rest : List Token) :
    DecoratesPart p (p ++ rest)

/-- A part of a body that is no element: a check, an index, a key whose list has not exactly one
name in front of the first closing parenthesis, or a foreign key with more of its list behind it. -/
inductive IsExtra : List Token → Prop
  | check (label : Option String) (r : List Token) :
    IsExtra (labelTokens label ++ .keyword .check :: r)
  | key (r : List Token) : IsExtra (.keyword .key :: r)
  | index (r : List Token) : IsExtra (.keyword .index :: r)
  | columns (h : KeyHead) {g : Group} (hnames : (namesInFront g.inside).length ≠ 1)
    (r : List Token) : IsExtra (h.tokens ++ (g.tokens ++ r))
  | foreignColumns (h : KeyHead) (hkind : h.kind = .foreignKey) {g : Group}
    (hinside : (readIdents g.inside).2 ≠ [])
    (hbehind : (readIdents g.inside).2.head? ≠ some (.keyword .references)) (r : List Token) :
    IsExtra (h.tokens ++ (g.tokens ++ r))

/-- The parts of a body with decorations, and other parts anywhere between them. -/
inductive Decorates : List (List Token) → List (List Token) → Prop
  | nil : Decorates [] []
  | part {p p' : List Token} {ps ps' : List (List Token)}
    (h : Relation.ReflTransGen DecoratesPart p p') (hrest : Decorates ps ps') :
    Decorates (p :: ps) (p' :: ps')
  | extra {p' : List Token} {ps ps' : List (List Token)} (h : IsExtra p')
    (hrest : Decorates ps ps') : Decorates ps (p' :: ps')

/-- One decoration leaves the element that the part is. -/
lemma ofTokens?_of_decoratesPart {p p' : List Token} (h : DecoratesPart p p') :
    Element.ofTokens? p' = Element.ofTokens? p := by
  cases h with
  | @label k hk name r =>
    have hne : k ≠ .constraint := by
      rintro rfl
      simp at hk
    exact (ofTokens?_labelTokens (some name) hne r).trans (ofTokens?_labelTokens none hne r).symm
  | naming hkind r => rw [KeyHead.ofTokens?_eq, KeyHead.ofTokens?_eq, hkind]
  | qualifier h q table r => exact ofTokens?_congr_reference h rfl
  | trailing h rest => rw [ofTokens?_append_of_foreignKey h, h]

lemma ofTokens?_of_reflTransGen {p p' : List Token}
    (h : Relation.ReflTransGen DecoratesPart p p') :
    Element.ofTokens? p' = Element.ofTokens? p := by
  induction h with
  | refl => rfl
  | tail _ hstep ih => exact (ofTokens?_of_decoratesPart hstep).trans ih

lemma ofTokens?_of_isExtra {p : List Token} (h : IsExtra p) : Element.ofTokens? p = none := by
  cases h with
  | check label r =>
    exact ofTokens?_labelTokens label (by decide) r
  | key r | index r => rfl
  | @columns h g hnames r =>
    have hcolumn : (readSingleColumn (.lparen :: (g.inside ++ r))).1 = none :=
      fst_readSingleColumn_of_ne_one hnames r
    rw [Group.tokens, List.cons_append, h.ofTokens?_eq, KeyKind.readConstraint?_eq_none hcolumn]
    rfl
  | @foreignColumns h hkind g hinside hbehind r =>
    rw [Group.tokens, List.cons_append, h.ofTokens?_eq, hkind,
      readConstraint?_foreignKey_eq_none hinside hbehind]
    rfl

/-- The elements of a body stay. -/
lemma filterMap_ofTokens?_of_decorates {ps ps' : List (List Token)} (h : Decorates ps ps') :
    ps'.filterMap Element.ofTokens? = ps.filterMap Element.ofTokens? := by
  induction h with
  | nil => rfl
  | @part p p' ps ps' h hrest ih =>
    rw [List.filterMap_cons, List.filterMap_cons, ofTokens?_of_reflTransGen h, ih]
  | extra h hrest ih => rw [List.filterMap_cons_none (ofTokens?_of_isExtra h), ih]

/-- A statement with decorations defines the same table: words between CREATE and TABLE, the
condition, qualifiers, labels, names of keys, other elements, and what follows a foreign key or the
body. -/
theorem tablesOf_decorated {s s' : Statement} (hname : s'.name = s.name)
    (h : Decorates s.body.parts s'.body.parts) : tablesOf s'.tokens = tablesOf s.tokens := by
  rw [Statement.tablesOf_tokens, Statement.tablesOf_tokens, Statement.table?, Statement.table?,
    hname, filterMap_ofTokens?_of_decorates h]

/-- A primary key or a unique key is left out exactly if its list has not one name in front of the
first closing parenthesis, be this one of an argument. -/
theorem ofTokens?_key_eq_none_iff {h : KeyHead} (hkind : h.kind ≠ .foreignKey) (g : Group)
    (r : List Token) : Element.ofTokens? (h.tokens ++ (g.tokens ++ r)) = none
      ↔ (namesInFront g.inside).length ≠ 1 := by
  have hcolumn := fst_readSingleColumn g r
  rw [Group.tokens, List.cons_append] at hcolumn ⊢
  rw [h.ofTokens?_eq, Option.map_eq_none_iff]
  have hread : readConstraint? (h.kind.tokens ++ .lparen :: (g.inside ++ r)) = none
      ↔ (readSingleColumn (.lparen :: (g.inside ++ r))).1 = none := by
    cases hk : h.kind with
    | foreignKey => exact absurd hk hkind
    | _ => exact Option.map_eq_none_iff
  rw [hread, hcolumn]
  split_ifs with hone
  · have hhead : (namesInFront g.inside).head? ≠ none := by
      rw [Ne, List.head?_eq_none_iff]
      intro hnil
      rw [hnil] at hone
      cases hone
    exact ⟨fun hnone => absurd hnone hhead, fun hne => absurd hone hne⟩
  · exact ⟨fun _ => hone, fun _ => rfl⟩

/-! ### A sample -/

/-- What a foreign key of the sample has behind its column, with a qualifier or without. -/
def sampleTail (qualifier : List Token) : List Token :=
  [.ident "b", .rparen, .keyword .references]
    ++ (qualifier ++ [.ident "u", .lparen, .ident "x", .rparen])

/-- A foreign key without decorations. -/
def plainHead : KeyHead :=
  ⟨none, .foreignKey, none, by decide⟩

/-- A foreign key with a label and a name. -/
def namedHead : KeyHead :=
  ⟨some "c", .foreignKey, some "k", by decide⟩

/-- A list of two columns. -/
def samplePair : Group :=
  ⟨[.ident "a"], [[.ident "b"]], by decide⟩

/-- A statement without decorations. -/
def plainStatement : Statement :=
  .plain "t" ⟨[.ident "a", .ident "int"], [[.ident "b", .ident "int"],
    plainHead.tokens ++ .lparen :: sampleTail []], by decide⟩

/-- The statement with decorations. -/
def decoratedStatement : Statement where
  modifiers := ["temp"]
  isConditional := true
  qualifiers := ["s"]
  name := "t"
  body := ⟨[.keyword .check, .lparen, .ident "a", .num "0", .rparen],
    [[.ident "a", .ident "int"],
      [.keyword .unique] ++ (samplePair.tokens ++ []),
      [.ident "b", .ident "int"],
      (namedHead.tokens ++ .lparen :: sampleTail [.ident "d", .dot])
        ++ [.keyword .on, .ident "delete", .ident "cascade"]], by decide⟩
  trailing := [.ident "engine"]
  isModifier := by decide
  staysInside := by decide

/-- The decorations are a check in front, a key of two columns, and the name, the qualifier and the
actions of a foreign key. -/
lemma decorates_sample :
    Decorates plainStatement.body.parts decoratedStatement.body.parts := by
  have hnaming := @DecoratesPart.naming plainHead namedHead rfl (sampleTail [])
  have hqualifier : DecoratesPart (namedHead.tokens ++ .lparen :: sampleTail [])
      (namedHead.tokens ++ .lparen :: sampleTail [.ident "d", .dot]) :=
    @DecoratesPart.qualifier (namedHead.tokens ++ [.lparen, .ident "b", .rparen]) (by decide)
      "d" "u" [.lparen, .ident "x", .rparen]
  have htrailing := @DecoratesPart.trailing
    (namedHead.tokens ++ .lparen :: sampleTail [.ident "d", .dot]) "b" ⟨"u", "x"⟩ rfl
    [.keyword .on, .ident "delete", .ident "cascade"]
  have hident : ∀ p ∈ samplePair.parts, ∃ name, .ident name ∈ p :=
    List.forall_mem_cons.mpr ⟨⟨"a", List.mem_cons_self⟩,
      List.forall_mem_singleton.mpr ⟨"b", List.mem_cons_self⟩⟩
  have hpair := length_namesInFront_ne_one (g := samplePair) le_rfl hident (by decide)
  refine .extra (.check none _) (.part .refl (.extra ?_ (.part .refl (.part ?_ .nil))))
  · exact .columns ⟨none, .unique, none, fun _ => rfl⟩ hpair []
  · exact ((Relation.ReflTransGen.single hnaming).tail hqualifier).tail htrailing

/-- Both statements are those of the texts, and they define the same table of two columns. -/
theorem tablesOf_decorated_sample :
    decoratedStatement.tokens = tokenize "create temp table if not exists s.t (check (a > 0),
a int, unique (a, b), b int, constraint c foreign key k (b) references d.u (x) on delete cascade)
engine;"
      ∧ plainStatement.tokens
        = tokenize "create table t (a int, b int, foreign key (b) references u (x));"
      ∧ tablesOf decoratedStatement.tokens = tablesOf plainStatement.tokens
      ∧ (tablesOf plainStatement.tokens).map (fun t => t.columns.length) = [2] :=
  ⟨by decide +kernel, by decide +kernel, tablesOf_decorated rfl decorates_sample,
    by decide +kernel⟩

/-- The first column of a unique key is read as the whole key if it has an argument. -/
theorem tablesOf_uniquePrefix :
    tablesOf (tokenize "create table t (a text, b int, unique (a(10), b));")
      ≠ tablesOf (tokenize "create table t (a text, b int);") := by
  decide +kernel

end SchemaDesigner.Script
