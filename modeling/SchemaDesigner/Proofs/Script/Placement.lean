/-
Places for a default in a script, and what is kept of the text that is put there.

* `Statement.opening`, `Statement.closing`: what stands around the parts of a body;
* `exists_column_of_tableOf?`: the first column of a name keeps its default in its table;
* `DefaultPlace`: a place in a column of a statement, behind the word DEFAULT;
* `ReadsAsDefault`, `DefaultPlace.keeps_fill`: tokens that are read as a default there are the
  default of the column;
* `WrittenPlace`, `WrittenPlace.keeps_script`: the same for a text between two others.
-/
import SchemaDesigner.Proofs.Script.Action
import SchemaDesigner.Proofs.Script.Spacing

namespace SchemaDesigner.Script

/-! ### Around the parts of a body -/

/-- Some parts with commas around them are split at each of them. -/
lemma joined_eq_append {first p : List Token} {others before after : List (List Token)}
    (h : first :: others = before ++ p :: after) :
    joined first others
      = before.flatMap (· ++ [.comma]) ++ (p ++ after.flatMap fun q => .comma :: q) := by
  induction before generalizing first others with
  | nil =>
    obtain ⟨rfl, rfl⟩ := List.cons.inj h
    rfl
  | cons b before ih =>
    obtain ⟨rfl, hothers⟩ := List.cons.inj h
    cases others with
    | nil => simp at hothers
    | cons q qs =>
      rw [joined_cons, ih hothers]
      simp

lemma Group.exists_of_parts {ps : List (List Token)} (hne : ps ≠ []) (h : ∀ p ∈ ps, IsPart p) :
    ∃ g : Group, g.parts = ps := by
  cases ps with
  | nil => exact absurd rfl hne
  | cons p ps => exact ⟨⟨p, ps, h⟩, rfl⟩

namespace Statement

variable (s : Statement)

/-- The tokens in front of the parts of the body. -/
def opening : List Token :=
  .keyword .create :: (s.modifiers.map .ident ++ .keyword .table :: (s.condition
    ++ (qualifierTokens s.qualifiers ++ [.ident s.name, .lparen])))

/-- The tokens behind the parts of the body. -/
def closing : List Token :=
  .rparen :: (s.trailing ++ [.semicolon])

lemma tokens_eq_append {p : List Token} {before after : List (List Token)}
    (h : s.body.parts = before ++ p :: after) :
    s.tokens = s.opening ++ (before.flatMap (· ++ [.comma])
      ++ (p ++ ((after.flatMap fun q => .comma :: q) ++ s.closing))) := by
  have hjoined := joined_eq_append h
  simp [tokens, definition, Group.tokens, Group.inside, hjoined, opening, closing]

end Statement

/-! ### From a column to its table -/

/-- The first column of a name is kept. -/
lemma mem_columnsOf {es es' : List Element} {d : ColumnDef}
    (h : ∀ c, .column c ∈ es → namesMatch c.name d.name = false) :
    d ∈ columnsOf (es ++ .column d :: es') := by
  rw [columnsOf, List.filterMap_append, List.filterMap_cons]
  refine @mem_keepFirst_of_first _ (fun a b : ColumnDef => namesMatch a.name b.name) _
    (fun hab hbc => namesMatch_trans hab hbc) d (fun c hc => ?_) _
  obtain ⟨e, he, hec⟩ := List.mem_filterMap.mp hc
  cases e with
  | constraint k => cases hec
  | column c' =>
    obtain rfl := Option.some.inj hec
    exact h c' he

/-- The first column of a name is in the table, with its default. -/
lemma exists_column_of_tableOf? {es : List Element} {d : ColumnDef} (es' : List Element)
    (h : ∀ c, .column c ∈ es → namesMatch c.name d.name = false) (name : String) :
    ∃ t, tableOf? name (es ++ .column d :: es') = some t
      ∧ ∃ c ∈ t.columns, c.name = d.name ∧ c.defaultValue = d.defaultValue := by
  let summary : ColumnDef → String × Option String := fun c => (c.name, c.defaultValue)
  have hall : ((constraintsOf (es ++ .column d :: es')).foldl applyConstraint
      (firstKeyOnly false (columnsOf (es ++ .column d :: es')))).map summary
        = (columnsOf (es ++ .column d :: es')).map summary := by
    refine List.foldlRecOn (motive := fun cs : List ColumnDef => cs.map summary = _) _ _ ?_
      fun cs hcs k _ => ?_
    · exact map_firstKeyOnly_of_eq (fun _ _ => rfl) false _
    · rw [← hcs]
      exact map_applyConstraint_of_eq (fun _ b => by cases b <;> rfl) (fun _ => rfl)
        (fun _ _ => rfl) cs k
  have hmem : summary d ∈ (columnsOf (es ++ .column d :: es')).map summary :=
    List.mem_map_of_mem (mem_columnsOf h)
  rw [← hall] at hmem
  obtain ⟨c, hc, heq⟩ := List.mem_map.mp hmem
  obtain ⟨hname, hdefault⟩ := Prod.mk.inj heq
  rw [tableOf?]
  split
  · rename_i hnil
    rw [hnil] at hc
    cases hc
  · exact ⟨_, rfl, c, hc, hname, hdefault⟩

/-! ### Places -/

/-- Behind the word DEFAULT, the tokens up to the next option are read as the default. -/
def ReadsAsDefault (us : List Token) (v : Option String) : Prop :=
  ∀ rest, (∀ t ∈ rest.head?, t.beginsOption = true) →
    readOptions (.keyword .default :: (us ++ rest)) = .default v :: readOptions rest

/-- A place for a default: a column of a statement, the first of its name, and the options of it
that stand behind the word DEFAULT. -/
structure DefaultPlace where
  statement : Statement
  before : List (List Token)
  column : ColumnClause
  options : List OptionClause
  after : List (List Token)
  parts : statement.body.parts = before ++ (column.tokens ++ OptionClause.join options) :: after
  isFirst : ∀ p ∈ before, ∀ c, Element.ofTokens? p = some (.column c) →
    namesMatch c.name column.name = false
  noDefault : ∀ o ∈ options, ∀ v, o.option ≠ .default v

namespace DefaultPlace

variable (p : DefaultPlace)

/-- The tokens up to the word DEFAULT. -/
def front : List Token :=
  p.statement.opening ++ (p.before.flatMap (· ++ [.comma])
    ++ (p.column.tokens ++ [.keyword .default]))

/-- The tokens from the next option on. -/
def back : List Token :=
  OptionClause.join p.options ++ ((p.after.flatMap fun q => .comma :: q) ++ p.statement.closing)

/-- One table is defined, and the default of the column in it is the given one. -/
def Keeps (tables : List TableDef) (v : Option String) : Prop :=
  ∃ t c, tables = [t] ∧ c ∈ t.columns ∧ c.name = p.column.name ∧ c.defaultValue = v

/-- A column of this name has one default in the tables of a script. -/
lemma Keeps.eq {p : DefaultPlace} {s : String} {v w : Option String} (h : p.Keeps (parse s) v)
    (h' : p.Keeps (parse s) w) : v = w := by
  obtain ⟨t, c, htables, hc, hname, rfl⟩ := h
  obtain ⟨t', c', htables', hc', hname', rfl⟩ := h'
  have ht : t ∈ parse s := by
    rw [htables]
    exact List.mem_singleton_self t
  obtain rfl := List.singleton_injective (htables.symm.trans htables')
  have hsame : c = c' := by
    refine (wellFormed_of_mem_parse ht).distinct.eq_of_mem hc hc' ?_
    rw [hname, hname']
    exact namesMatch_refl _
  rw [hsame]

/-- The tokens of the column with those of a default. -/
def part (us : List Token) : List Token :=
  p.column.tokens ++ .keyword .default :: (us ++ OptionClause.join p.options)

/-- The column has the default that is read behind the word DEFAULT. -/
lemma exists_column {us : List Token} {v : Option String} (hread : ReadsAsDefault us v) :
    ∃ d, Element.ofTokens? (p.part us) = some (.column d) ∧ d.name = p.column.name
      ∧ d.defaultValue = v := by
  have hnothing : ∀ t ∈ ([] : List Token).head?, t.beginsOption = true :=
    fun t ht => absurd ht (by simp)
  have hbegins := OptionClause.beginsOption_of_mem_head?_join_append p.options hnothing
  have hjoin := OptionClause.readOptions_join_append p.options hnothing
  have hoptions := hread _ hbegins
  rw [List.append_nil] at hoptions
  rw [List.append_nil, readOptions_nil, List.append_nil] at hjoin
  have hdefault : ∀ t ∈ (Token.keyword .default :: (us ++ OptionClause.join p.options)).head?,
      t.beginsOption = true := by
    intro t ht
    obtain rfl := Option.some.inj ht
    rfl
  refine ⟨_, p.column.ofTokens?_tokens_append hdefault, name_foldl_apply _ _, ?_⟩
  rw [defaultValue_foldl_apply, hoptions, hjoin]
  exact lastDefault_append_default (List.forall_mem_map.mpr p.noDefault) v _

/-- Tokens that are read as a default are the default of the column. -/
lemma keeps_fill {us : List Token} {v : Option String} (hpart : IsPart us)
    (hread : ReadsAsDefault us v) :
    p.Keeps (tablesOf (p.front ++ (us ++ p.back))) v := by
  obtain ⟨d, hd, hname, hdefault⟩ := p.exists_column hread
  -- the body with the whole column in the place of the one without the default
  have hparts : ∀ q ∈ p.before ++ p.part us :: p.after, IsPart q := by
    have hbody := p.statement.body.isPart
    rw [← Group.parts, p.parts] at hbody
    obtain ⟨hbefore, hrest⟩ := List.forall_mem_append.mp hbody
    have hcolumn : IsPart (p.part us) := p.column.isPart_tokens.append
      ((hpart.append (OptionClause.isPart_join p.options)).cons rfl)
    exact List.forall_mem_append.mpr
      ⟨hbefore, List.forall_mem_cons.mpr ⟨hcolumn, (List.forall_mem_cons.mp hrest).2⟩⟩
  obtain ⟨g, hg⟩ := Group.exists_of_parts (by simp) hparts
  have htokens : p.front ++ (us ++ p.back) = { p.statement with body := g }.tokens := by
    rw [Statement.tokens_eq_append _ hg, front, back]
    simp [part, Statement.opening, Statement.closing, Statement.condition]
  have hfirst : ∀ c, .column c ∈ p.before.filterMap Element.ofTokens? →
      namesMatch c.name d.name = false := by
    intro c hc
    obtain ⟨q, hq, hqc⟩ := List.mem_filterMap.mp hc
    rw [hname]
    exact p.isFirst q hq c hqc
  obtain ⟨t, ht, c, hc, hcname, hcdefault⟩ := exists_column_of_tableOf?
    (p.after.filterMap Element.ofTokens?) hfirst p.statement.name
  refine ⟨t, c, ?_, hc, hcname.trans hname, hcdefault.trans hdefault⟩
  rw [htokens, Statement.tablesOf_tokens, Statement.table?, hg, List.filterMap_append,
    List.filterMap_cons_some hd]
  exact congrArg Option.toList ht

end DefaultPlace

/-! ### Places in a text -/

/-- A place for a default with the texts around it. The one in front ends where a token does, and
the one behind it begins with a break. -/
structure WrittenPlace extends DefaultPlace where
  frontText : String
  backText : String
  reads_frontText : ReadsFully frontText toDefaultPlace.front
  tokenize_backText : tokenize backText = toDefaultPlace.back
  stops_backText : Stops backText.toList

namespace WrittenPlace

variable (p : WrittenPlace)

/-- The script with a text in the place. -/
def script (text : String) : String :=
  p.frontText ++ (text ++ p.backText)

lemma tokenize_script {text : String} {us : List Token} (h : Reads text us) :
    tokenize (p.script text) = p.front ++ (us ++ p.back) := by
  calc tokenize (p.script text)
      = scan (p.frontText.toList ++ (text.toList ++ p.backText.toList)) := by
        rw [tokenize, script, String.toList_append, String.toList_append]
    _ = p.front ++ (us ++ scan p.backText.toList) := by
        rw [p.reads_frontText, h _ p.stops_backText]
    _ = p.front ++ (us ++ p.back) := by rw [← p.tokenize_backText, tokenize]

/-- A text whose tokens are read as a default gives the default of the column. -/
lemma keeps_script {text : String} {us : List Token} {v : Option String} (htext : Reads text us)
    (hpart : IsPart us) (hread : ReadsAsDefault us v) :
    p.Keeps (parse (p.script text)) v := by
  rw [parse, p.tokenize_script htext]
  exact p.keeps_fill hpart hread

end WrittenPlace

/-! ### A sample -/

/-- The text in front of the place in a statement with three columns. -/
def sampleFrontText : String :=
  " create table t ( a int , c int default "

/-- The text has the tokens in front of the place, with a blank between any two. -/
lemma isSpelled_sampleFrontText : IsSpelled sampleFrontText
    [.keyword .create, .keyword .table, .ident "t", .lparen, .ident "a", .ident "int", .comma,
      .ident "c", .ident "int", .keyword .default] := by
  have hspace : IsGap " " := .single (.blank (c := ' ') rfl)
  exact .cons hspace (.keyword (k := .create) (List.mem_singleton_self _) "create" (by decide))
    (.cons hspace (.keyword (k := .table) (List.mem_singleton_self _) "table" (by decide))
    (.cons hspace (.word "t" (by decide))
    (.cons hspace (.symbol (c := '(') rfl)
    (.cons hspace (.word "a" (by decide))
    (.cons hspace (.word "int" (by decide))
    (.cons hspace (.symbol (c := ',') rfl)
    (.cons hspace (.word "c" (by decide))
    (.cons hspace (.word "int" (by decide))
    (.cons hspace (.keyword (k := .default) (List.mem_singleton_self _) "default" (by decide))
    (.nil hspace))))))))))

/-- The place in the second of the columns, in front of an option. -/
def samplePlace : WrittenPlace where
  statement := .plain "t" ⟨[.ident "a", .ident "int"], [[.ident "c", .ident "int", .keyword .not,
    .keyword .null], [.ident "b", .ident "int"]], by decide⟩
  before := [[.ident "a", .ident "int"]]
  column := ⟨"c", .word "int", none, []⟩
  options := [.notNull]
  after := [[.ident "b", .ident "int"]]
  parts := rfl
  isFirst := by
    intro p hp c hc
    obtain rfl := List.mem_singleton.mp hp
    have hread : Element.ofTokens? [.ident "a", .ident "int"]
        = some (.column { name := "a", type := .int }) := by
      decide +kernel
    obtain rfl := Element.column.inj (Option.some.inj (hread.symm.trans hc))
    decide
  noDefault := by
    intro o ho v
    rw [List.mem_singleton.mp ho]
    exact ColumnOption.noConfusion
  frontText := sampleFrontText
  backText := " not null, b int);"
  reads_frontText := isSpelled_sampleFrontText.readsFully
  tokenize_backText := by decide +kernel
  stops_backText := Stops.cons (c := ' ') rfl

end SchemaDesigner.Script
