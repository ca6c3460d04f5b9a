/-
Columns of a script: the tokens of a column's definition and the column that they give.

* `ColumnDef.carried`: what a definition in a dialect carries of a column;
* `IsLegible`: a column whose type, size and default are read back as they are written;
* `WritesOptions`: a text of options, its tokens and the options that they give;
* `reads_columnLine`: the definition of a legible column gives what it carries;
* `columnLine_carried`: a column and what is carried of it have the same definition.
-/
import SchemaDesigner.Proofs.Script.Legible

namespace SchemaDesigner

/-- What the definition of a column in a dialect carries of it. A serial type takes no size, primary
keys are neither null nor repeated, and only integers count up by themselves, where the dialect has
a word for it. -/
def ColumnDef.carried (d : Dialect) (c : ColumnDef) : ColumnDef :=
  { c with
    size := if (d.serialType? c).isSome then none else Text.nonEmpty? c.size
    nullable := c.nullable && !c.primaryKey
    unique := c.unique || c.primaryKey
    autoIncrement := (d.serialType? c).isSome
      || (c.autoIncrement && c.type.isInteger && d.autoIncrementWord?.isSome)
    defaultValue := Text.nonEmpty? c.defaultValue }

/-- The column without its reference, which stands outside of its definition. -/
def ColumnDef.withoutReference (c : ColumnDef) : ColumnDef :=
  { c with reference := none }

namespace Script

/-- The type, the size and the default of the column are read back as the dialect writes them. -/
structure IsLegible (d : Dialect) (c : ColumnDef) : Prop where
  type : d.serialType? c = none → IsLegibleType c.type
  size : d.serialType? c = none → ∀ s, Text.nonEmpty? c.size = some s → IsLegibleSize s
  default : ∀ s, Text.nonEmpty? c.defaultValue = some s → IsLegibleDefault s

/-- The names that a dialect writes so that they can be read: all of them between quotes, and else
the words that are no keywords. -/
def IsWritable (d : Dialect) (name : String) : Prop :=
  match d with
  | .postgreSql | .cockroachDb | .oracle | .sqlServer => True
  | .standard | .mySql | .sqlite => IsBareWord name

instance (d : Dialect) (name : String) : Decidable (IsWritable d name) :=
  match d with
  | .postgreSql | .cockroachDb | .oracle | .sqlServer => isTrue trivial
  | .standard | .mySql | .sqlite => inferInstanceAs (Decidable (IsBareWord name))

lemma reads_quote {d : Dialect} {name : String} (h : IsWritable d name) :
    Reads (d.quote name) [.ident name] := by
  cases d with
  | postgreSql | cockroachDb | oracle => exact .doubleQuoted name
  | sqlServer => exact .bracketed name
  | standard | mySql | sqlite => exact .bareWord h

/-! ### Options -/

section ReadOptions

variable {t : Token} {r rest : List Token} {o : ColumnOption}

lemma readOptions_nil : readOptions [] = [] := by
  rw [readOptions.eq_def]

lemma readOptions_cons_of_some (h : readOption t r = (some o, rest)) :
    readOptions (t :: r) = o :: readOptions rest := by
  rw [readOptions.eq_def]
  dsimp only
  split
  · rename_i o' rest' h'
    obtain ⟨ho, hrest⟩ := Prod.mk.inj (h.symm.trans h')
    rw [Option.some.inj ho, hrest]
  · rename_i rest' h'
    cases (Prod.mk.inj (h.symm.trans h')).1

end ReadOptions

/-- The tokens that the written options of a column begin with. -/
def optionHeads : List Token :=
  [.keyword .primary, .keyword .not, .keyword .unique, .keyword .autoIncrement,
    .ident "IDENTITY", .keyword .default]

/-- The tokens begin like options, if there are any. -/
def BeginsOption (ts : List Token) : Prop :=
  ∀ t ∈ ts.head?, t ∈ optionHeads

namespace BeginsOption

variable {ts us : List Token}

lemma nil : BeginsOption [] := by
  intro t ht
  cases ht

lemma append (h : BeginsOption ts) (hus : BeginsOption us) : BeginsOption (ts ++ us) := by
  cases ts with
  | nil => exact hus
  | cons t ts =>
    intro t' ht'
    exact h t' ht'

/-- The word after UNIQUE may be KEY, which options do not begin with. -/
lemma dropKeyword_key (h : BeginsOption ts) : dropKeyword .key ts = ts := by
  cases ts with
  | nil => rfl
  | cons t ts =>
    have hmem := h t rfl
    simp only [optionHeads, List.mem_cons, List.not_mem_nil, or_false] at hmem
    rcases hmem with rfl | rfl | rfl | rfl | rfl | rfl <;> rfl

/-- No size is read where options begin. -/
lemma readSize_eq (h : BeginsOption ts) : readSize ts = (none, ts) := by
  cases ts with
  | nil => rfl
  | cons t ts =>
    have hmem := h t rfl
    simp only [optionHeads, List.mem_cons, List.not_mem_nil, or_false] at hmem
    rcases hmem with rfl | rfl | rfl | rfl | rfl | rfl <;> rfl

/-- No second word of a type is read where options begin. -/
lemma readType_eq (h : BeginsOption ts) {first : String}
    (hserial : ColumnType.ofSerial? first = none) :
    readType first ts = (oneWordType first, false, ts) := by
  have hsecond : twoWordType? first "IDENTITY" = none := by
    have hupper : Text.upper "IDENTITY" = "IDENTITY" := by decide
    rw [twoWordType?, hupper]
    split <;> simp_all
  cases ts with
  | nil => simp [readType, hserial]
  | cons t ts =>
    have hmem := h t rfl
    simp only [optionHeads, List.mem_cons, List.not_mem_nil, or_false] at hmem
    rcases hmem with rfl | rfl | rfl | rfl | rfl | rfl <;> simp [readType, hserial, hsecond]

end BeginsOption

/-- The text is written for options and has the tokens. -/
structure WritesOptions (s : String) (ts : List Token) (os : List ColumnOption) : Prop where
  reads : Reads s ts
  stops : Stops s.toList
  passes : Passes 0 ts
  begins : BeginsOption ts
  options : ∀ us, BeginsOption us → readOptions (ts ++ us) = os ++ readOptions us

namespace WritesOptions

variable {s s' : String} {ts ts' : List Token} {os os' : List ColumnOption}

lemma empty : WritesOptions "" [] [] :=
  ⟨.empty, Stops.nil, .nil, BeginsOption.nil, fun _ _ => rfl⟩

lemma append (h : WritesOptions s ts os) (h' : WritesOptions s' ts' os') :
    WritesOptions (s ++ s') (ts ++ ts') (os ++ os') := by
  refine ⟨h.reads.append h'.reads h'.stops, ?_, h.passes.append h'.passes,
    h.begins.append h'.begins, fun us hus => ?_⟩
  · rw [String.toList_append]
    exact h.stops.append h'.stops
  · rw [List.append_assoc, h.options _ (h'.begins.append hus), h'.options us hus, List.append_assoc]

/-- Options that are written under a condition. -/
lemma ite (h : WritesOptions s ts os) (b : Bool) :
    WritesOptions (if b then s else "") (if b then ts else []) (if b then os else []) := by
  cases b with
  | true => exact h
  | false => exact empty

/-- One option with a blank in front. -/
lemma single {t : Token} {o : ColumnOption} (hreads : Reads s (t :: ts))
    (hpasses : Passes 0 (t :: ts)) (hbegins : t ∈ optionHeads)
    (hoption : ∀ us, BeginsOption us → readOption t (ts ++ us) = (some o, us)) :
    WritesOptions (" " ++ s) (t :: ts) [o] := by
  refine ⟨hreads.space, Stops.space s, hpasses, ?_, fun us hus => ?_⟩
  · intro t' ht'
    obtain rfl := Option.some.inj ht'
    exact hbegins
  · rw [List.cons_append, readOptions_cons_of_some (hoption us hus)]
    rfl

lemma primaryKey :
    WritesOptions " PRIMARY KEY" [.keyword .primary, .keyword .key] [.primaryKey] := by
  have hreads : Reads "PRIMARY KEY" [.keyword .primary, .keyword .key] :=
    (Reads.keyword (w := "PRIMARY") (by decide) (by decide)).append
      (Reads.keyword (w := "KEY") (by decide) (by decide)).space (Stops.space "KEY")
  refine single hreads ?_ (by decide) fun us hus => rfl
  exact (Passes.of_isPlain (t := .keyword .primary) rfl).append (.of_isPlain rfl)

lemma notNull : WritesOptions " NOT NULL" [.keyword .not, .keyword .null] [.notNull] := by
  have hreads : Reads "NOT NULL" [.keyword .not, .keyword .null] :=
    (Reads.keyword (w := "NOT") (by decide) (by decide)).append
      (Reads.keyword (w := "NULL") (by decide) (by decide)).space (Stops.space "NULL")
  refine single hreads ?_ (by decide) fun us hus => rfl
  exact (Passes.of_isPlain (t := .keyword .not) rfl).append (.of_isPlain rfl)

lemma unique : WritesOptions " UNIQUE" [.keyword .unique] [.unique] := by
  have hreads : Reads "UNIQUE" [.keyword .unique] := .keyword (by decide) (by decide)
  refine single hreads (.of_isPlain rfl) (by decide) fun us hus => ?_
  rw [List.nil_append, readOption, hus.dropKeyword_key]

/-- The word of a dialect for columns that count up by themselves. -/
lemma counter {d : Dialect} {word : String} (h : d.autoIncrementWord? = some word) :
    ∃ ts, WritesOptions (" " ++ word) ts [.autoIncrement] := by
  cases d with
  | standard | mySql | sqlite =>
    obtain rfl := Option.some.inj h
    exact ⟨_, single (Reads.keyword (k := .autoIncrement) (by decide) (by decide))
      (.of_isPlain rfl) (by decide) fun us hus => rfl⟩
  | sqlServer =>
    obtain rfl := Option.some.inj h
    have hreads : Reads "IDENTITY(1,1)"
        [.ident "IDENTITY", .lparen, .num "1", .comma, .num "1", .rparen] := by
      have hone : Reads "1" [.num "1"] := .number (by decide)
      have hlist := hone.append (hone.append Reads.closing Stops.closing).comma
        (Stops.comma _)
      exact (Reads.bareWord (w := "IDENTITY") (by decide)).append hlist.lparen (Stops.lparen _)
    have hlist : Passes 1 [.num "1", .comma, .num "1"] :=
      (Passes.of_isPlain (t := .num "1") rfl).append (Passes.comma.append (.of_isPlain rfl))
    refine ⟨_, single hreads ?_ (by decide) fun us hus => rfl⟩
    exact (Passes.of_isPlain (t := .ident "IDENTITY") rfl).append hlist.paren
  | postgreSql | cockroachDb | oracle => cases h

/-- A legible default, which comes last. -/
lemma default {text : String} (h : IsLegibleDefault text) : ∃ ts,
    Reads (" DEFAULT " ++ text) ts ∧ Passes 0 ts ∧ BeginsOption ts
      ∧ readOptions ts = [.default (some text)] := by
  obtain ⟨ts, hreads, hpasses, hdefault⟩ := h
  have hword : Reads ("DEFAULT" ++ (" " ++ text)) ([.keyword .default] ++ ts) :=
    (Reads.keyword (w := "DEFAULT") (by decide) (by decide)).append hreads.space (Stops.space text)
  have hline : " DEFAULT " ++ text = " " ++ ("DEFAULT" ++ (" " ++ text)) := by
    simp [← String.append_assoc]
  refine ⟨[.keyword .default] ++ ts, hline ▸ hword.space,
    (Passes.of_isPlain rfl).append hpasses, ?_, ?_⟩
  · intro t ht
    obtain rfl := Option.some.inj ht
    decide
  · have hoption : readOption (.keyword .default) ts = (some (.default (some text)), []) := by
      rw [readOption, hdefault]
    rw [List.singleton_append, readOptions_cons_of_some hoption, readOptions_nil]

end WritesOptions

/-- The options that are written after the type of a column. -/
def optionsOf (d : Dialect) (c : ColumnDef) : List ColumnOption :=
  (if c.primaryKey then [.primaryKey] else [])
    ++ (if !c.nullable && !c.primaryKey then [.notNull] else [])
    ++ (if c.unique && !c.primaryKey then [.unique] else [])
    ++ (if c.autoIncrement && (d.serialType? c).isNone && c.type.isInteger
        && d.autoIncrementWord?.isSome then [.autoIncrement] else [])
    ++ match Text.nonEmpty? c.defaultValue with
      | some text => [.default (some text)]
      | none => []

/-- The counting word is written where the dialect has one for the column. -/
lemma writesOptions_counter (d : Dialect) (b : Bool) : ∃ ts,
    WritesOptions (match (if b then d.autoIncrementWord? else none) with
      | some word => " " ++ word
      | none => "") ts (if b && d.autoIncrementWord?.isSome then [.autoIncrement] else []) := by
  cases b with
  | false => exact ⟨[], .empty⟩
  | true =>
    cases hword : d.autoIncrementWord? with
    | none => exact ⟨[], .empty⟩
    | some word => exact WritesOptions.counter hword

/-- The options of a legible column are read back. -/
lemma reads_columnOptions {d : Dialect} {c : ColumnDef} (h : IsLegible d c) : ∃ ts,
    Reads (columnOptions d c) ts ∧ Stops (columnOptions d c).toList ∧ Passes 0 ts
      ∧ BeginsOption ts ∧ readOptions ts = optionsOf d c := by
  obtain ⟨ts, hcounter⟩ := writesOptions_counter d
    (c.autoIncrement && (d.serialType? c).isNone && c.type.isInteger)
  have hfront := (((WritesOptions.primaryKey.ite c.primaryKey).append
    (WritesOptions.notNull.ite (!c.nullable && !c.primaryKey))).append
    (WritesOptions.unique.ite (c.unique && !c.primaryKey))).append hcounter
  cases hdefault : Text.nonEmpty? c.defaultValue with
  | none =>
    have hall := hfront.append .empty
    have hoptions := hall.options [] .nil
    rw [columnOptions, optionsOf, hdefault]
    refine ⟨_, hall.reads, hall.stops, hall.passes, hall.begins, ?_⟩
    simpa only [List.append_nil, readOptions_nil] using hoptions
  | some text =>
    obtain ⟨us, hreads, hpasses, hbegins, hoptions⟩ :=
      WritesOptions.default (h.default text hdefault)
    have hstops : Stops (" DEFAULT " ++ text).toList := Stops.prepend (c := ' ') rfl rfl
    have hstopsAll := hfront.stops.append hstops
    rw [← String.toList_append] at hstopsAll
    have hoptionsAll := hfront.options us hbegins
    rw [hoptions] at hoptionsAll
    rw [columnOptions, optionsOf, hdefault]
    exact ⟨_, hfront.reads.append hreads hstops, hstopsAll, hfront.passes.append hpasses,
      hfront.begins.append hbegins, hoptionsAll⟩

/-! ### Columns -/

/-- The column before its options have been read. -/
def withoutOptions (d : Dialect) (c : ColumnDef) : ColumnDef where
  name := c.name
  type := c.type
  size := if (d.serialType? c).isSome then none else Text.nonEmpty? c.size
  autoIncrement := (d.serialType? c).isSome

/-- The column with its options is what the definition carries, without the reference. -/
lemma foldl_optionsOf (d : Dialect) (c : ColumnDef) :
    (optionsOf d c).foldl ColumnOption.apply (withoutOptions d c)
      = (c.carried d).withoutReference := by
  simp only [optionsOf, withoutOptions, ColumnDef.carried, List.foldl_append]
  generalize d.serialType? c = serial
  generalize d.autoIncrementWord?.isSome = counts
  obtain ⟨name, type, size, primaryKey, nullable, unique, autoIncrement, defaultValue,
    reference⟩ := c
  cases primaryKey <;> cases nullable <;> cases unique <;> cases autoIncrement <;>
    cases serial <;> cases counts <;> cases type.isInteger <;>
    cases Text.nonEmpty? defaultValue <;> rfl

/-- A serial type is one word, which stands for the type of the column. -/
lemma serialType?_spec {d : Dialect} {c : ColumnDef} {w : String} (h : d.serialType? c = some w) :
    IsBareWord w ∧ ColumnType.ofSerial? w = some c.type := by
  have hwords : (IsBareWord "SERIAL" ∧ ColumnType.ofSerial? "SERIAL" = some .int)
      ∧ IsBareWord "BIGSERIAL" ∧ ColumnType.ofSerial? "BIGSERIAL" = some .bigInt := by
    decide
  rw [Dialect.serialType?.eq_def] at h
  split at h
  · rename_i htype
    split_ifs at h
    rw [htype, ← Option.some.inj h]
    exact hwords.1
  · rename_i htype
    split_ifs at h
    rw [htype, ← Option.some.inj h]
    exact hwords.1
  · rename_i htype
    split_ifs at h
    rw [htype, ← Option.some.inj h]
    exact hwords.2
  · rename_i htype
    split_ifs at h
    rw [htype, ← Option.some.inj h]
    exact hwords.2
  · cases h

lemma nonEmpty?_nonEmpty? (s : Option String) :
    Text.nonEmpty? (Text.nonEmpty? s) = Text.nonEmpty? s := by
  simp [Text.nonEmpty?]

lemma nonEmpty?_of_some {s : Option String} {t : String} (h : Text.nonEmpty? s = some t) :
    Text.nonEmpty? (some t) = some t := by
  rw [← h, nonEmpty?_nonEmpty?]

lemma eq_some_of_nonEmpty? {s : Option String} {t : String} (h : Text.nonEmpty? s = some t) :
    s = some t :=
  (Option.filter_eq_some_iff.mp h).1

/-- The type of a legible column with its size is read back. -/
lemma reads_typeText {d : Dialect} {c : ColumnDef} (h : IsLegible d c) : ∃ first ts,
    Reads ((d.serialType? c).getD c.typeLabel) (.ident first :: ts)
      ∧ Passes 0 (.ident first :: ts)
      ∧ ∀ us, BeginsOption us → readColumn? (.ident c.name :: .ident first :: (ts ++ us))
        = some ((readOptions us).foldl ColumnOption.apply (withoutOptions d c)) := by
  cases hserial : d.serialType? c with
  | some w =>
    obtain ⟨hw, htype⟩ := serialType?_spec hserial
    refine ⟨w, [], .bareWord hw, .of_isPlain rfl, fun us hus => ?_⟩
    simp only [readColumn?, List.nil_append, readType, htype, hus.readSize_eq, withoutOptions,
      hserial, Option.isSome_some, if_true]
  | none =>
    have htype := h.type hserial
    cases hsize : Text.nonEmpty? c.size with
    | none =>
      refine ⟨c.type.name, [], ?_, .of_isPlain rfl, fun us hus => ?_⟩
      · simpa only [Option.getD_none, ColumnDef.typeLabel, hsize] using htype.reads
      · simp only [readColumn?, List.nil_append, hus.readType_eq htype.notSerial, hus.readSize_eq,
          withoutOptions, hserial, htype.means, hsize]
        rfl
    | some size =>
      obtain ⟨ts, hreads, hpasses, htext⟩ := h.size hserial size hsize
      have hparens : Reads ("(" ++ (size ++ ")")) (.lparen :: ts ++ [.rparen]) := by
        have hclosed := hreads.append Reads.closing Stops.closing
        exact hclosed.lparen
      refine ⟨c.type.name, .lparen :: ts ++ [.rparen], ?_, ?_, fun us hus => ?_⟩
      · have hlabel := htype.reads.append hparens (Stops.lparen _)
        simpa only [Option.getD_none, ColumnDef.typeLabel, hsize, String.append_assoc,
          List.singleton_append] using hlabel
      · exact (Passes.of_isPlain (t := .ident _) rfl).append hpasses.paren
      · have hread : readSize (.lparen :: ts ++ [.rparen] ++ us) = (some size, us) := by
          rw [List.append_assoc, List.cons_append, List.singleton_append, readSize, htext us,
            nonEmpty?_of_some hsize]
        have hfirst : readType c.type.name (.lparen :: ts ++ [.rparen] ++ us)
            = (c.type, false, .lparen :: ts ++ [.rparen] ++ us) := by
          rw [List.append_assoc, List.cons_append]
          simp [readType, htype.notSerial, htype.means]
        simp only [readColumn?, hfirst, hread, withoutOptions, hserial, hsize]
        rfl

/-- The definition of a legible column is one part of a body and gives what it carries. -/
lemma reads_columnLine {d : Dialect} {c : ColumnDef} (hname : IsWritable d c.name)
    (h : IsLegible d c) : ∃ ts, Reads (columnLine d c) ts ∧ Passes 0 ts
      ∧ Element.ofTokens? ts = some (.column (c.carried d).withoutReference) := by
  obtain ⟨first, ts, htype, hpasses, hcolumn⟩ := reads_typeText h
  obtain ⟨us, hoptions, hstops, hpasses', hbegins, hread⟩ := reads_columnOptions h
  refine ⟨.ident c.name :: ((.ident first :: ts) ++ us), ?_, ?_, ?_⟩
  · have hline := (reads_quote hname).append (htype.append hoptions hstops).space (Stops.space _)
    simpa only [columnLine, String.append_assoc, List.singleton_append] using hline
  · exact (Passes.of_isPlain (t := .ident c.name) rfl).append (hpasses.append hpasses')
  · have hgives := hcolumn us hbegins
    rw [hread, foldl_optionsOf] at hgives
    exact congrArg (Option.map Element.column) hgives

/-! ### What is carried, once more -/

/-- The serial types are there for keys that count up by themselves, and such keys stay so. -/
lemma serialType?_carried (d : Dialect) (c : ColumnDef) :
    d.serialType? (c.carried d) = d.serialType? c := by
  obtain ⟨name, type, size, primaryKey, nullable, unique, autoIncrement, defaultValue,
    reference⟩ := c
  cases d with
  | postgreSql | cockroachDb =>
    cases type <;> cases primaryKey <;> cases autoIncrement <;> rfl
  | standard | mySql | sqlite | sqlServer | oracle => rfl

lemma columnOptions_carried (d : Dialect) (c : ColumnDef) :
    columnOptions d (c.carried d) = columnOptions d c := by
  have hserial := serialType?_carried d c
  have hkey : (c.carried d).primaryKey = c.primaryKey := rfl
  have hnull : (!(c.carried d).nullable && !c.primaryKey) = (!c.nullable && !c.primaryKey) := by
    simp only [ColumnDef.carried]
    cases c.nullable <;> cases c.primaryKey <;> rfl
  have hunique : ((c.carried d).unique && !c.primaryKey) = (c.unique && !c.primaryKey) := by
    simp only [ColumnDef.carried]
    cases c.unique <;> cases c.primaryKey <;> rfl
  have hdefault : Text.nonEmpty? (c.carried d).defaultValue = Text.nonEmpty? c.defaultValue :=
    nonEmpty?_nonEmpty? _
  have hcounts : ((c.carried d).autoIncrement && (d.serialType? c).isNone && c.type.isInteger)
      = (c.autoIncrement && (d.serialType? c).isNone && c.type.isInteger
        && d.autoIncrementWord?.isSome) := by
    simp only [ColumnDef.carried]
    generalize d.serialType? c = serial
    cases serial <;> cases c.autoIncrement <;> cases c.type.isInteger <;>
      cases d.autoIncrementWord?.isSome <;> rfl
  have htype : (c.carried d).type = c.type := rfl
  simp only [columnOptions, hserial, hkey, hnull, hunique, hdefault, htype, hcounts]
  cases d.autoIncrementWord? with
  | none => simp
  | some word => simp

/-- A column and what is carried of it have the same definition. -/
lemma columnLine_carried (d : Dialect) (c : ColumnDef) :
    columnLine d (c.carried d) = columnLine d c := by
  have hlabel : (d.serialType? c).getD (c.carried d).typeLabel
      = (d.serialType? c).getD c.typeLabel := by
    cases hserial : d.serialType? c with
    | some w => rfl
    | none =>
      have hsize : Text.nonEmpty? (c.carried d).size = Text.nonEmpty? c.size := by
        simp only [ColumnDef.carried, hserial]
        exact nonEmpty?_nonEmpty? _
      simp only [Option.getD_none, ColumnDef.typeLabel, hsize]
      rfl
  rw [columnLine, columnLine, serialType?_carried, hlabel, columnOptions_carried]
  rfl
end Script

end SchemaDesigner
