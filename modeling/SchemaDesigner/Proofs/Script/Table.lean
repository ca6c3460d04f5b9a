/-
The parts of a script: the tokens of its lines and statements, and what they give.

* `TableDef.carried`: what a definition in a dialect carries of a table;
* `WritesElement`, `reads_referenceLine`: a line of a body and the element that it gives;
* `reads_body`: the lines of a body are its parts;
* `Reads.afterComment`: the comment of a table has no tokens;
* `Defines`, `Defines.indexLine`: a text that defines tables, and statements that define none.
-/
import Mathlib.Data.List.Forall2
import SchemaDesigner.Proofs.Script.Column
import SchemaDesigner.Script.Definition

namespace SchemaDesigner

/-- What the definition of a table in a dialect carries of it: of several primary keys the first. -/
def TableDef.carried (d : Dialect) (t : Table) : TableDef :=
  ⟨t.name, Script.firstKeyOnly false (t.columns.map fun c => c.toColumnDef.carried d)⟩

namespace Script

/-! ### Phrases -/

section Associativity

variable (s₁ s₂ s₃ s₄ s₅ s₆ s₇ s₈ : String)

/-- Four texts in a row. The rule for three is slow where some of them are fixed. -/
lemma append_assoc₄ : s₁ ++ s₂ ++ s₃ ++ s₄ = s₁ ++ (s₂ ++ (s₃ ++ s₄)) := by
  simp only [String.append_assoc]

lemma append_assoc₇ : s₁ ++ s₂ ++ s₃ ++ s₄ ++ s₅ ++ s₆ ++ s₇
    = s₁ ++ (s₂ ++ (s₃ ++ (s₄ ++ (s₅ ++ (s₆ ++ s₇))))) := by
  simp only [String.append_assoc]

lemma append_assoc₈ : s₁ ++ s₂ ++ s₃ ++ s₄ ++ s₅ ++ s₆ ++ s₇ ++ s₈
    = s₁ ++ (s₂ ++ (s₃ ++ (s₄ ++ (s₅ ++ (s₆ ++ (s₇ ++ s₈)))))) := by
  simp only [String.append_assoc]

end Associativity

namespace Reads

variable {s w : String} {ts : List Token} {k : Keyword}

/-- A keyword in front of a text that begins with a break. -/
lemma afterKeyword (h : Reads s ts) (hw : isWord w = true) (hk : Keyword.ofWord? w = some k)
    (hs : Stops s.toList) : Reads (w ++ s) (.keyword k :: ts) :=
  (Reads.keyword hw hk).append h hs

lemma foreignKey (h : Reads s ts) :
    Reads ("FOREIGN KEY (" ++ s) (.keyword .foreign :: .keyword .key :: .lparen :: ts) := by
  have hkey := h.lparen.space.afterKeyword (w := "KEY") (k := .key) (by decide) (by decide)
    (Stops.space _)
  have hphrase := hkey.space.afterKeyword (w := "FOREIGN") (k := .foreign) (by decide) (by decide)
    (Stops.space _)
  have htext : "FOREIGN KEY (" ++ s = "FOREIGN" ++ (" " ++ ("KEY" ++ (" " ++ ("(" ++ s)))) := by
    simp [← String.append_assoc]
  rw [htext]
  exact hphrase

lemma references (h : Reads s ts) :
    Reads (") REFERENCES " ++ s) (.rparen :: .keyword .references :: ts) := by
  have hphrase := h.space.afterKeyword (w := "REFERENCES") (k := .references) (by decide)
    (by decide) (Stops.space _)
  have htext : ") REFERENCES " ++ s = ")" ++ (" " ++ ("REFERENCES" ++ (" " ++ s))) := by
    simp [← String.append_assoc]
  rw [htext]
  exact hphrase.space.rparen

/-- The words CREATE TABLE are read as two keywords. -/
lemma createTable (h : Reads s ts) :
    Reads ("CREATE TABLE " ++ s) (.keyword .create :: .keyword .table :: ts) := by
  have htable := h.space.afterKeyword (w := "TABLE") (k := .table) (by decide) (by decide)
    (Stops.space _)
  have hphrase := htable.space.afterKeyword (w := "CREATE") (k := .create) (by decide)
    (by decide) (Stops.space _)
  have htext : "CREATE TABLE " ++ s = "CREATE" ++ (" " ++ ("TABLE" ++ (" " ++ s))) := by
    simp [← String.append_assoc]
  rw [htext]
  exact hphrase

lemma createIndex (h : Reads s ts) :
    Reads ("CREATE INDEX " ++ s) (.keyword .create :: .keyword .index :: ts) := by
  have hindex := h.space.afterKeyword (w := "INDEX") (k := .index) (by decide) (by decide)
    (Stops.space _)
  have hphrase := hindex.space.afterKeyword (w := "CREATE") (k := .create) (by decide)
    (by decide) (Stops.space _)
  have htext : "CREATE INDEX " ++ s = "CREATE" ++ (" " ++ ("INDEX" ++ (" " ++ s))) := by
    simp [← String.append_assoc]
  rw [htext]
  exact hphrase

lemma on (h : Reads s ts) : Reads (" ON " ++ s) (.keyword .on :: ts) := by
  have hphrase := h.space.afterKeyword (w := "ON") (k := .on) (by decide) (by decide)
    (Stops.space _)
  have htext : " ON " ++ s = " " ++ ("ON" ++ (" " ++ s)) := by
    simp [← String.append_assoc]
  rw [htext]
  exact hphrase.space

/-- The end of a statement, with a line feed behind it. -/
lemma endStatement (h : Reads s ts) : Reads (");\n" ++ s) (.rparen :: .semicolon :: ts) := by
  have hline := h.newline.semicolon.rparen
  have htext : ");\n" ++ s = ")" ++ (";" ++ ("\n" ++ s)) := by
    simp [← String.append_assoc]
  rw [htext]
  exact hline

/-- The end of a body, on a line of its own. -/
lemma endBody (h : Reads s ts) : Reads ("\n);\n" ++ s) (.rparen :: .semicolon :: ts) := by
  have htext : "\n);\n" ++ s = "\n" ++ (");\n" ++ s) := by
    simp [← String.append_assoc]
  rw [htext]
  exact h.endStatement.newline

/-- The beginning of a body, with a line feed behind it. -/
lemma beginBody (h : Reads s ts) : Reads (" (\n" ++ s) (.lparen :: ts) := by
  have htext : " (\n" ++ s = " " ++ ("(" ++ ("\n" ++ s)) := by
    simp [← String.append_assoc]
  rw [htext]
  exact h.newline.lparen.space

end Reads

/-! ### Lines of a body -/

/-- The line is one part of a body and gives the element. -/
def WritesElement (line : String) (e : Element) : Prop :=
  ∃ ts, Reads line ts ∧ Passes 0 ts ∧ Element.ofTokens? ts = some e

/-- The line of a reference gives the constraint of a foreign key. -/
lemma reads_referenceLine {d : Dialect} {column : String} {r : Reference}
    (hcolumn : IsWritable d column) (htarget : IsWritable d r.table)
    (hname : IsWritable d r.column) :
    WritesElement (referenceLine d column r) (.constraint (.foreignKey column r)) := by
  have hlast := (reads_quote hname).append Reads.closing Stops.closing
  have htable := (reads_quote htarget).append hlast.lparen (Stops.lparen _)
  have hfirst := (reads_quote hcolumn).append htable.references
    (Stops.prepend (c := ')') rfl rfl)
  have hpasses : ∀ name, Passes 0 [.lparen, .ident name, .rparen] := fun name =>
    Passes.paren (.of_isPlain (t := .ident name) rfl)
  refine ⟨[.keyword .foreign, .keyword .key, .lparen, .ident column, .rparen,
    .keyword .references, .ident r.table, .lparen, .ident r.column, .rparen], ?_, ?_, ?_⟩
  · have htext : referenceLine d column r = _ := append_assoc₇ _ _ _ _ _ _ _
    rw [htext]
    exact hfirst.foreignKey
  · have hreferences : Passes 0 [.keyword .references, .ident r.table, .lparen, .ident r.column,
        .rparen] :=
      (Passes.of_isPlain (t := .keyword .references) rfl).append
        ((Passes.of_isPlain (t := .ident r.table) rfl).append (hpasses r.column))
    have hkeys : Passes 0 [.keyword .foreign, .keyword .key] :=
      (Passes.of_isPlain (t := .keyword .foreign) rfl).append (Passes.of_isPlain rfl)
    exact hkeys.append ((hpasses column).append hreferences)
  · rw [Element.ofTokens?]
    simp only [dropConstraintName, readConstraint?, dropIdent, readSingleColumn, readColumnList,
      readIdents, readReference, readName, readQualified, Option.map_some]

/-- The tokens of lines with a comma after each but the last are split into the lines again. -/
lemma reads_body {indent : String} (hindent : Text.isBlankText indent = true)
    {lines : List String} {es : List Element} (h : List.Forall₂ WritesElement lines es)
    (hne : lines ≠ []) : ∃ ts parts, Reads (joinWith ",\n" (lines.map (indent ++ ·))) ts
      ∧ (∀ rest, splitBody 0 (ts ++ .rparen :: rest) = (some parts, rest))
      ∧ parts.filterMap Element.ofTokens? = es := by
  induction h with
  | nil => exact absurd rfl hne
  | @cons line e lines es hline hrest ih =>
    obtain ⟨ts, hreads, hpasses, he⟩ := hline
    cases hrest with
    | nil =>
      refine ⟨ts, [ts], hreads.blank hindent, fun rest => ?_, by simp [he]⟩
      rw [hpasses]
      simp [splitBody, foldr_consPart_cons]
    | @cons line' e' lines es hline' hrest =>
      obtain ⟨us, parts, hjoined, hsplit, helements⟩ := ih (List.cons_ne_nil _ _)
      refine ⟨ts ++ .comma :: us, ts :: parts, ?_, fun rest => ?_, ?_⟩
      · have hcomma := hjoined.newline.comma
        have hjoin : joinWith ",\n" ((line :: line' :: lines).map (indent ++ ·))
            = indent ++ (line ++ ("," ++ ("\n"
              ++ joinWith ",\n" ((line' :: lines).map (indent ++ ·))))) := by
          simp [joinWith, ← String.append_assoc]
        rw [hjoin]
        exact (hreads.append hcomma (Stops.comma _)).blank hindent
      · rw [List.append_assoc, hpasses, List.cons_append]
        simp [splitBody, hsplit, foldr_consPart_cons]
      · rw [List.filterMap_cons_some he, helements]

/-! ### Comments and indexes -/

lemma joinWith_empty_cons (s : String) (ss : List String) :
    joinWith "" (s :: ss) = s ++ joinWith "" ss := by
  cases ss with
  | nil => rw [joinWith, joinWith, String.append_empty]
  | cons t ss => rw [joinWith, String.append_empty]

/-- A line has no line feed in it. -/
lemma newline_notMem_lines {cs l : List Char} (hl : l ∈ Text.lines cs) : '\n' ∉ l := by
  induction cs generalizing l with
  | nil => cases hl
  | cons c cs ih =>
    rw [Text.lines] at hl
    split_ifs at hl with hc
    · rcases List.mem_cons.mp hl with rfl | hl
      · exact List.not_mem_nil
      · exact ih hl
    · cases hlines : Text.lines cs with
      | nil =>
        rw [hlines] at hl
        rw [List.mem_singleton.mp hl, List.mem_singleton]
        exact Ne.symm hc
      | cons l' ls =>
        rw [hlines] at hl ih
        rcases List.mem_cons.mp hl with rfl | hl
        · rw [List.mem_cons, not_or]
          exact ⟨Ne.symm hc, ih List.mem_cons_self⟩
        · exact ih (List.mem_cons_of_mem l' hl)

section Texts

variable {s : String} {ts : List Token}

/-- A comment line in front of a text does not matter. -/
lemma Reads.commentLine {line : String} (h : Reads s ts) (hline : '\n' ∉ line.toList) :
    Reads ("-- " ++ line ++ "\n" ++ s) ts := by
  have hcomment := h.comment (a := "-- ") rfl (by decide) hline
  have htext : "-- " ++ line ++ "\n" ++ s = _ := append_assoc₄ _ _ _ _
  rw [htext]
  exact hcomment

/-- The comment of a table does not matter. -/
lemma Reads.afterComment (comment : Option String) (h : Reads s ts) :
    Reads (commentLines comment ++ s) ts := by
  rw [commentLines]
  cases Text.nonBlank? comment with
  | none => rwa [String.empty_append]
  | some text =>
    dsimp only
    have hlines : ∀ l ∈ Text.lines text.toList, '\n' ∉ l := fun l hl => newline_notMem_lines hl
    generalize Text.lines text.toList = ls at hlines
    induction ls with
    | nil =>
      rw [List.map_nil, joinWith, String.empty_append]
      exact h
    | cons l ls ih =>
      have hrest := ih fun l' hl' => hlines l' (List.mem_cons_of_mem l hl')
      have hline : '\n' ∉ (String.ofList (Text.trimEnd l)).toList := by
        rw [String.toList_ofList, Text.trimEnd_eq_rdropWhile]
        exact fun hmem => hlines l List.mem_cons_self
          ((List.rdropWhile_prefix Text.isBlank l).subset hmem)
      rw [List.map_cons, joinWith_empty_cons, String.append_assoc]
      exact hrest.commentLine hline

end Texts

/-! ### Definitions among other statements -/

section Definitions

variable {r rest : List Token} {d : TableDef}

lemma definitions_nil : definitions [] = [] := by
  rw [definitions.eq_def]

/-- A statement that defines a table adds it to the definitions. -/
lemma definitions_create_of_some (h : readCreate r = (some d, rest)) :
    definitions (.keyword .create :: r) = d :: definitions rest := by
  rw [definitions.eq_def]
  dsimp only
  split
  · rename_i d' rest' h'
    obtain ⟨hd, hrest⟩ := Prod.mk.inj (h.symm.trans h')
    rw [Option.some.inj hd, hrest]
  · rename_i rest' h'
    cases (Prod.mk.inj (h.symm.trans h')).1

/-- A statement that defines none is passed over. -/
lemma definitions_create_of_none (h : readCreate r = (none, rest)) :
    definitions (.keyword .create :: r) = definitions rest := by
  rw [definitions.eq_def]
  dsimp only
  split
  · rename_i d' rest' h'
    cases (Prod.mk.inj (h.symm.trans h')).1
  · rename_i rest' h'
    rw [(Prod.mk.inj (h.symm.trans h')).2]

end Definitions

/-- The text defines the tables, whatever follows it after a break: its tokens give the tables and
then what follows them. -/
def Defines (s : String) (ds : List TableDef) : Prop :=
  ∃ ts, Reads s ts ∧ ∀ rest, definitions (ts ++ rest) = ds ++ definitions rest

namespace Defines

variable {s : String} {ds : List TableDef}

lemma empty : Defines "" [] :=
  ⟨[], .empty, fun _ => rfl⟩

lemma newline (h : Defines s ds) : Defines ("\n" ++ s) ds := by
  obtain ⟨ts, hreads, hgives⟩ := h
  exact ⟨ts, hreads.newline, hgives⟩

/-- A text that defines tables is parsed to the first of each name. -/
lemma parse_eq (h : Defines s ds) :
    parse s = keepFirst (fun a b => namesMatch a.name b.name) ds := by
  obtain ⟨ts, hreads, hgives⟩ := h
  have hall := hgives []
  rw [List.append_nil, definitions_nil, List.append_nil] at hall
  rw [parse, tablesOf, hreads.tokenize_eq, hall]

end Defines

/-! ### Indexes -/

lemma upper_of_ofWord?_create {w : String} (h : Keyword.ofWord? w = some .create) :
    Text.upper w = "CREATE" := by
  rw [Keyword.ofWord?.eq_def] at h
  split at h <;> first | assumption | cases h

section IndexName

variable {d : Dialect} {table column : String}

lemma toList_indexName (table column : String) : (indexName table column).toList
    = 'i' :: 'd' :: 'x' :: '_' :: (table.toList ++ '_' :: column.toList) := by
  simp [indexName]

/-- The name of an index is a word if those of its table and column are. -/
lemma isWord_indexName (htable : isWord table = true) (hcolumn : isWord column = true) :
    isWord (indexName table column) = true := by
  have hall : ∀ c ∈ 'd' :: 'x' :: '_' :: (table.toList ++ '_' :: column.toList),
      continuesWord c = true := by
    intro c hmem
    simp only [List.mem_cons, List.mem_append] at hmem
    rcases hmem with rfl | rfl | rfl | hmem | rfl | hmem
    · decide
    · decide
    · decide
    · exact Reads.continuesWord_of_mem htable hmem
    · decide
    · exact Reads.continuesWord_of_mem hcolumn hmem
  rw [isWord, toList_indexName]
  exact Bool.and_eq_true_iff.mpr ⟨by decide, List.all_eq_true.mpr hall⟩

/-- The name of an index never reads as the word CREATE. -/
lemma ofWord?_indexName_ne (table column : String) :
    Keyword.ofWord? (indexName table column) ≠ some .create := by
  intro hcreate
  have hupper := congrArg String.toList (upper_of_ofWord?_create hcreate)
  rw [Text.upper, String.toList_ofList, toList_indexName] at hupper
  simp [Text.upperChars] at hupper

/-- The name of an index is one token, which neither ends a statement nor begins one. -/
lemma reads_indexName (htable : IsWritable d table) (hcolumn : IsWritable d column) : ∃ t,
    Reads (d.quote (indexName table column)) [t] ∧ t ≠ .semicolon ∧ t ≠ .keyword .create := by
  have hbare (ht : IsBareWord table) (hc : IsBareWord column) : ∃ t,
      Reads (indexName table column) [t] ∧ t ≠ .semicolon ∧ t ≠ .keyword .create := by
    refine ⟨_, .word (isWord_indexName ht.1 hc.1), ?_, ?_⟩
    · rw [Token.ofWord]
      split <;> simp
    · rw [Token.ofWord]
      split
      · rename_i k hk
        intro hcreate
        exact ofWord?_indexName_ne table column (Token.keyword.inj hcreate ▸ hk)
      · simp
  cases d with
  | postgreSql | cockroachDb | oracle | sqlServer =>
    exact ⟨_, reads_quote trivial, by simp, by simp⟩
  | standard | mySql | sqlite => exact hbare htable hcolumn

end IndexName

/-- Within a statement one token is passed over after the other. -/
lemma afterStatement_cons {t : Token} {r : List Token} (hsemicolon : t ≠ .semicolon)
    (hcreate : t ≠ .keyword .create) : afterStatement (t :: r) = afterStatement r := by
  rw [afterStatement.eq_def]
  split <;> simp_all

/-- The statement for an index in front of a text, where the name of the index is one token. -/
lemma Reads.indexLine {d : Dialect} {table column s : String} {t : Token} {ts : List Token}
    (h : Reads s ts) (hname : Reads (d.quote (indexName table column)) [t])
    (htable : IsWritable d table) (hcolumn : IsWritable d column) :
    Reads (Script.indexLine d table column ++ s)
      (.keyword .create :: .keyword .index :: t :: .keyword .on :: .ident table :: .lparen
        :: .ident column :: .rparen :: .semicolon :: ts) := by
  have hend := (reads_quote hcolumn).append h.endStatement (Stops.prepend (c := ')') rfl rfl)
  have hcolumns := (reads_quote htable).append hend.lparen (Stops.lparen _)
  have hstatement := (hname.append hcolumns.on (Stops.prepend (c := ' ') rfl rfl)).createIndex
  have htext : Script.indexLine d table column ++ s = _ := append_assoc₈ _ _ _ _ _ _ _ _
  rw [htext]
  exact hstatement

/-- The statement for an index in front of a text defines nothing. -/
lemma Defines.indexLine {d : Dialect} {table column s : String} {ds : List TableDef}
    (h : Defines s ds) (htable : IsWritable d table) (hcolumn : IsWritable d column) :
    Defines (Script.indexLine d table column ++ s) ds := by
  obtain ⟨ts, hreads, hgives⟩ := h
  obtain ⟨t, hname, hsemicolon, hcreate⟩ := reads_indexName htable hcolumn
  refine ⟨_, hreads.indexLine hname htable hcolumn, fun rest => ?_⟩
  have hskip : readCreate (.keyword .index :: t :: .keyword .on :: .ident table :: .lparen
      :: .ident column :: .rparen :: .semicolon :: (ts ++ rest)) = (none, ts ++ rest) := by
    have hafter := afterStatement_cons (r := .keyword .on :: .ident table :: .lparen
      :: .ident column :: .rparen :: .semicolon :: (ts ++ rest)) hsemicolon hcreate
    rw [readCreate, List.dropWhile_cons_of_neg (by decide)]
    exact Prod.ext rfl hafter
  exact (definitions_create_of_none hskip).trans (hgives rest)

end Script

end SchemaDesigner
