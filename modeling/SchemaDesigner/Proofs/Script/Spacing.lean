/-
Scripts in any spelling and any spacing, and the tokens that are read from them.

* `Keyword.spellings`, `Spells`: the ways to write a token;
* `IsFiller`, `IsGap`: blanks and comments, and what may stand between two tokens;
* `Ends`: a text begins with a break or a comment, in front of which every token ends;
* `ReadsFully`: a text has some tokens, whatever follows it;
* `Spells.scan_append`, `IsGap.readsFully`: the step for one token, and for what stands between;
* `IsSpelled`, `tokenize_of_isSpelled`: tokens in any spelling, with any gaps between and around
  them, are read back.
-/
import SchemaDesigner.Proofs.Name
import SchemaDesigner.Proofs.Script.Scan

namespace SchemaDesigner.Script

open Text

/-! ### Words in any case -/

section Case

variable {a b : String}

lemma beginsWord_toLower (c : Char) : beginsWord c.toLower = beginsWord c :=
  apply_toLower beginsWord (by decide) c

lemma continuesWord_toLower (c : Char) : continuesWord c.toLower = continuesWord c :=
  apply_toLower continuesWord (by decide) c

/-- Whether a text is a word does not depend on the case of its ASCII letters. -/
lemma isWord_eq_of_match (h : namesMatch a b = true) : isWord a = isWord b := by
  have hfold : ∀ s, isWord s = isWord (String.ofList (foldName s)) := by
    intro s
    rw [isWord, isWord, String.toList_ofList, foldName]
    cases s.toList with
    | nil => rfl
    | cons c cs =>
      have hall : (cs.map Char.toLower).all continuesWord = cs.all continuesWord := by
        rw [List.all_map]
        exact congrArg cs.all (funext continuesWord_toLower)
      simp only [List.map_cons, beginsWord_toLower, hall]
  rw [hfold a, hfold b, namesMatch_iff.mp h]

/-- Nor does the keyword that a word is. -/
lemma ofWord?_eq_of_match (h : namesMatch a b = true) : Keyword.ofWord? a = Keyword.ofWord? b := by
  rw [Keyword.ofWord?, Keyword.ofWord?, upper_eq_of_match h]

end Case

/-- The words for a keyword, in upper case. -/
def Keyword.spellings : Keyword → List String
  | create => ["CREATE"]
  | table => ["TABLE"]
  | ifWord => ["IF"]
  | not => ["NOT"]
  | exist => ["EXISTS"]
  | primary => ["PRIMARY"]
  | key => ["KEY"]
  | foreign => ["FOREIGN"]
  | references => ["REFERENCES"]
  | null => ["NULL"]
  | unique => ["UNIQUE"]
  | default => ["DEFAULT"]
  | constraint => ["CONSTRAINT"]
  | index => ["INDEX"]
  | check => ["CHECK"]
  | on => ["ON"]
  | autoIncrement => ["AUTO_INCREMENT", "AUTOINCREMENT"]

/-- The words for a keyword are read as that keyword. -/
lemma Keyword.isWord_spellings (k : Keyword) :
    ∀ u ∈ k.spellings, isWord u = true ∧ ofWord? u = some k := by
  cases k <;> decide

/-- There are no other words for a keyword. -/
lemma Keyword.upper_mem_spellings {w : String} {k : Keyword} (h : ofWord? w = some k) :
    upper w ∈ k.spellings := by
  rw [ofWord?.eq_def] at h
  split at h
  all_goals
    cases h
  all_goals simp [spellings, *]

/-! ### The ways to write a token -/

/-- The text is one of the ways to write the token: a keyword in any case, a word that is none, a
name between delimiters with the closing one doubled, a literal without backslashes and with its
quotes doubled, with a word in front or not, a number, or a symbol. -/
inductive Spells : String → Token → Prop
  | keyword {k : Keyword} {u : String} (hu : u ∈ k.spellings) (w : String)
    (h : namesMatch w u = true) : Spells w (.keyword k)
  | word (w : String) (h : IsBareWord w) : Spells w (.ident w)
  | delimited {c close : Char} (h : closing? c = some close) (name : String) :
    Spells (String.singleton c ++ doubled close name ++ String.singleton close) (.ident name)
  | literal (text : String) (h : '\\' ∉ text.toList) : Spells (Script.literal text) (.str text)
  | prefixed (w text : String) (hw : IsBareWord w) (h : '\\' ∉ text.toList) :
    Spells (w ++ Script.literal text) (.prefixed w text)
  | number (digits : String) (h : isNumber digits = true) : Spells digits (.num digits)
  | symbol {c : Char} {t : Token} (h : symbol? c = some t) : Spells (String.singleton c) t

/-! ### Gaps -/

/-- A blank, a comment up to the end of its line, or a comment up to the first `*/`. -/
inductive IsFiller : String → Prop
  | blank {c : Char} (h : isBlank c = true) : IsFiller (String.singleton c)
  | dashes (text : String) (h : '\n' ∉ text.toList) : IsFiller ("--" ++ text ++ "\n")
  | hash (text : String) (h : '\n' ∉ text.toList) : IsFiller ("#" ++ text ++ "\n")
  | block (text : String) (h : ¬['*', '/'] <:+: text.toList) : IsFiller ("/*" ++ text ++ "*/")

/-- Blanks and comments, one at least. -/
inductive IsGap : String → Prop
  | single {s : String} (h : IsFiller s) : IsGap s
  | cons {s rest : String} (h : IsFiller s) (hrest : IsGap rest) : IsGap (s ++ rest)

/-! ### The end of a token -/

/-- The characters in front of which every token ends: breaks, and the first ones of comments. -/
def endsToken (c : Char) : Bool :=
  isBreak c || c == '-' || c == '#' || c == '/'

/-- The text begins with a character in front of which every token ends, unless it is empty. -/
def Ends (cs : List Char) : Prop :=
  ∀ c ∈ cs.head?, endsToken c = true

namespace Ends

variable {c : Char} {r : List Char}

lemma cons (h : endsToken c = true) : Ends (c :: r) := by
  intro d hd
  obtain rfl := Option.some.inj hd
  exact h

/-- What every token stops at also ends it. -/
lemma of_stops (h : Stops r) : Ends r := by
  intro c hc
  simp [endsToken, h c hc]

/-- Such a character goes on with no token. -/
lemma forall_head? {p : Char → Bool} (h : Ends r) (hbreak : ∀ c, isBreak c = true → p c = true)
    (hcomment : p '-' = true ∧ p '#' = true ∧ p '/' = true) : ∀ c ∈ r.head?, p c = true := by
  intro c hc
  have hends := h c hc
  simp only [endsToken, Bool.or_eq_true, beq_iff_eq] at hends
  obtain ⟨hdash, hhash, hslash⟩ := hcomment
  rcases hends with ((hends | rfl) | rfl) | rfl
  · exact hbreak c hends
  · exact hdash
  · exact hhash
  · exact hslash

lemma head?_ne {d : Char} (h : Ends r) (hd : endsToken d = false) : r.head? ≠ some d := by
  intro hr
  have hends := h d hr
  rw [hd] at hends
  cases hends

lemma continuesWord_eq (h : Ends r) : ∀ c ∈ r.head?, continuesWord c = false := by
  have hword := h.forall_head? (p := fun c => !continuesWord c)
    (fun c hc => by simp [continuesWord_of_isBreak hc]) (by decide)
  simpa using hword

lemma no_number (h : Ends r) : ∀ c ∈ r.head?, c.isDigit = false ∧ c ≠ '.' := by
  have hdigit := h.forall_head? (p := fun c => !c.isDigit)
    (fun c hc => by simp [isDigit_of_isBreak hc]) (by decide)
  intro c hc
  refine ⟨by simpa using hdigit c hc, ?_⟩
  rintro rfl
  exact h.head?_ne (d := '.') rfl hc

end Ends

/-! ### One token -/

/-- A token in any of its spellings is read, up to a character that ends it. -/
lemma Spells.scan_append {s : String} {t : Token} (h : Spells s t) {r : List Char} (hr : Ends r) :
    scan (s.toList ++ r) = t :: scan r := by
  cases h with
  | @keyword k u hu _ hcase =>
    obtain ⟨hword, hkeyword⟩ := k.isWord_spellings u hu
    rw [← isWord_eq_of_match hcase] at hword
    rw [← ofWord?_eq_of_match hcase] at hkeyword
    have hscan := Reads.scan_word_append hword hr.continuesWord_eq (hr.head?_ne rfl)
    rwa [Token.ofWord, hkeyword] at hscan
  | word _ hw =>
    have hscan := Reads.scan_word_append hw.1 hr.continuesWord_eq (hr.head?_ne rfl)
    rwa [Token.ofWord, hw.2] at hscan
  | @delimited c close hc name =>
    have hclose : endsToken close = false := by
      rw [closing?.eq_def] at hc
      split at hc
      all_goals cases hc
      all_goals rfl
    exact Reads.scan_delimited_append hc name (hr.head?_ne hclose)
  | literal _ hslash =>
    refine Reads.scan_literal_append (isLiteral_of_forall_ne ?_) (hr.head?_ne rfl)
    rintro c hc rfl
    exact hslash hc
  | prefixed _ _ hw hslash =>
    refine Reads.scan_prefixed_append hw (isLiteral_of_forall_ne ?_) (hr.head?_ne rfl)
    rintro c hc rfl
    exact hslash hc
  | number _ hnumber => exact Reads.scan_number_append hnumber hr.no_number
  | symbol hc =>
    rw [String.toList_singleton]
    exact scan_cons_of_some (next_symbol hc)

/-! ### What stands between tokens -/

/-- A comment ends at the first `*/`, also behind a run of stars. -/
lemma afterBlock_append {cs r : List Char} (h : ¬['*', '/'] <:+: cs) :
    afterBlock (cs ++ '*' :: '/' :: r) = r := by
  induction cs with
  | nil => rfl
  | cons c cs ih =>
    have hcs : ¬['*', '/'] <:+: cs := fun hin => h (hin.trans (List.suffix_cons c cs).isInfix)
    have hstep : afterBlock (c :: (cs ++ '*' :: '/' :: r))
        = afterBlock (cs ++ '*' :: '/' :: r) := by
      rw [afterBlock.eq_def]
      split
      · rename_i heq
        cases heq
      · rename_i r' heq
        exfalso
        obtain ⟨rfl, hrest⟩ := List.cons.inj heq
        cases cs with
        | nil => exact absurd (List.cons.inj hrest).1 (by decide)
        | cons d cs =>
          obtain ⟨rfl, -⟩ := List.cons.inj hrest
          exact h (List.prefix_append ['*', '/'] cs).isInfix
      · rename_i heq
        obtain ⟨-, rfl⟩ := List.cons.inj heq
        rfl
    rw [List.cons_append, hstep, ih hcs]

/-- The text has the tokens, whatever follows it. -/
def ReadsFully (s : String) (ts : List Token) : Prop :=
  ∀ r, scan (s.toList ++ r) = ts ++ scan r

namespace ReadsFully

variable {s s' : String} {ts ts' : List Token}

lemma tokenize_eq (h : ReadsFully s ts) : tokenize s = ts := by
  have hscan := h []
  rwa [List.append_nil, scan_nil, List.append_nil] at hscan

/-- Texts that are read in full are read one after the other. -/
lemma append (h : ReadsFully s ts) (h' : ReadsFully s' ts') : ReadsFully (s ++ s') (ts ++ ts') := by
  intro r
  rw [String.toList_append, List.append_assoc, h, h', List.append_assoc]

end ReadsFully

/-- Blanks and comments have no tokens. -/
lemma IsFiller.readsFully {s : String} (h : IsFiller s) : ReadsFully s [] := by
  intro r
  cases h with
  | blank hblank =>
    rw [String.toList_singleton]
    exact scan_cons_of_none (next_blank hblank)
  | dashes text htext =>
    have hlist : ("--" ++ text ++ "\n").toList ++ r = '-' :: '-' :: (text.toList ++ '\n' :: r) := by
      simp
    have hnone : '\n' ∉ '-' :: text.toList := by simpa using htext
    rw [hlist, scan_cons_of_none next_comment, ← List.cons_append, Reads.afterLine_append hnone]
    rfl
  | hash text htext =>
    have hlist : ("#" ++ text ++ "\n").toList ++ r = '#' :: (text.toList ++ '\n' :: r) := by
      simp
    have hnext : next '#' (text.toList ++ '\n' :: r) = (none, r) :=
      congrArg (Prod.mk none) (Reads.afterLine_append htext)
    rw [hlist, scan_cons_of_none hnext]
    rfl
  | block text htext =>
    have hlist : ("/*" ++ text ++ "*/").toList ++ r
        = '/' :: '*' :: (text.toList ++ '*' :: '/' :: r) := by
      simp
    have hnext : next '/' ('*' :: (text.toList ++ '*' :: '/' :: r)) = (none, r) :=
      congrArg (Prod.mk none) (afterBlock_append htext)
    rw [hlist, scan_cons_of_none hnext]
    rfl

lemma IsFiller.ends {s : String} (h : IsFiller s) (r : List Char) : Ends (s.toList ++ r) := by
  cases h with
  | blank hblank =>
    rw [String.toList_singleton]
    exact .cons (by simp [endsToken, isBreak, hblank])
  | dashes | hash | block =>
    rw [String.toList_append, String.toList_append]
    exact .cons (by decide)

namespace IsGap

variable {s : String}

/-- A gap has no tokens. -/
lemma readsFully (h : IsGap s) : ReadsFully s [] := by
  induction h with
  | single h => exact h.readsFully
  | cons h hrest ih => exact h.readsFully.append ih

/-- Every token ends in front of a gap. -/
lemma ends (h : IsGap s) (r : List Char) : Ends (s.toList ++ r) := by
  cases h with
  | single h => exact h.ends r
  | cons h hrest =>
    rw [String.toList_append, List.append_assoc]
    exact h.ends _

end IsGap

/-! ### Tokens with gaps between and around them -/

/-- The text has the tokens in some spelling, with gaps between and around them. -/
inductive IsSpelled : String → List Token → Prop
  | nil {gap : String} (hgap : IsGap gap) : IsSpelled gap []
  | cons {gap s rest : String} {t : Token} {ts : List Token} (hgap : IsGap gap) (h : Spells s t)
    (hrest : IsSpelled rest ts) : IsSpelled (gap ++ (s ++ rest)) (t :: ts)

namespace IsSpelled

variable {s : String} {ts : List Token}

/-- In front of spelled tokens every token ends. -/
lemma ends (h : IsSpelled s ts) (r : List Char) : Ends (s.toList ++ r) := by
  cases h with
  | nil hgap => exact hgap.ends r
  | cons hgap _ _ =>
    rw [String.toList_append, List.append_assoc]
    exact hgap.ends _

/-- Token by token: a gap has none, and a token ends in front of the next gap. -/
lemma readsFully (h : IsSpelled s ts) : ReadsFully s ts := by
  induction h with
  | nil hgap => exact hgap.readsFully
  | @cons gap s rest t ts hgap hs hrest ih =>
    intro r
    calc scan ((gap ++ (s ++ rest)).toList ++ r)
        = scan (gap.toList ++ (s.toList ++ (rest.toList ++ r))) := by
          rw [String.toList_append, String.toList_append, List.append_assoc, List.append_assoc]
      _ = scan (s.toList ++ (rest.toList ++ r)) := hgap.readsFully _
      _ = t :: scan (rest.toList ++ r) := hs.scan_append (hrest.ends r)
      _ = t :: ts ++ scan r := by rw [ih r, List.cons_append]

end IsSpelled

/-- Tokens in any spelling, with any gaps between and around them, are read back as they are. -/
theorem tokenize_of_isSpelled {s : String} {ts : List Token} (h : IsSpelled s ts) :
    tokenize s = ts :=
  h.readsFully.tokenize_eq

/-- Tokens of each kind, with blanks and comments that look like tokens, and names and literals that
look like comments. -/
def sampleSpelling : String :=
  "-- 'a\n cReAtE/***/table \"a\"\"--b\" ( \x60/*\x60 , [c]]#] #\n ; _d . -1.5--'\n'it''s' n'/*' "

/-- Each token stands behind its gap. -/
lemma isSpelled_sample : IsSpelled sampleSpelling
    [.keyword .create, .keyword .table, .ident "a\"--b", .lparen, .ident "/*", .comma, .ident "c]#",
      .semicolon, .ident "_d", .dot, .num "-1.5", .str "it's", .prefixed "n" "/*"] := by
  have hblank : IsFiller " " := .blank (c := ' ') rfl
  have hspace : IsGap " " := .single hblank
  have hstart : IsGap ("-- 'a\n" ++ " ") := .cons (.dashes " 'a" (by decide)) hspace
  have hstars : IsGap "/***/" := .single (.block "*" (by decide))
  have hhash : IsGap (" " ++ ("#\n" ++ " ")) :=
    .cons hblank (.cons (.hash "" (by decide)) hspace)
  have hdashes : IsGap "--'\n" := .single (.dashes "'" (by decide))
  exact .cons hstart (.keyword (k := .create) (List.mem_singleton_self _) "cReAtE" (by decide))
    (.cons hstars (.keyword (k := .table) (List.mem_singleton_self _) "table" (by decide))
    (.cons hspace (.delimited (c := '"') rfl "a\"--b")
    (.cons hspace (.symbol (c := '(') rfl)
    (.cons hspace (.delimited (c := '\x60') rfl "/*")
    (.cons hspace (.symbol (c := ',') rfl)
    (.cons hspace (.delimited (c := '[') rfl "c]#")
    (.cons hhash (.symbol (c := ';') rfl)
    (.cons hspace (.word "_d" (by decide))
    (.cons hspace (.symbol (c := '.') rfl)
    (.cons hspace (.number "-1.5" (by decide))
    (.cons hdashes (.literal "it's" (by decide))
    (.cons hspace (.prefixed "n" "/*" (by decide) (by decide))
    (.nil hspace)))))))))))))

/-- All of them are read back, and nothing of the comments. -/
theorem tokenize_of_isSpelled_sample : tokenize sampleSpelling
    = [.keyword .create, .keyword .table, .ident "a\"--b", .lparen, .ident "/*", .comma,
      .ident "c]#", .semicolon, .ident "_d", .dot, .num "-1.5", .str "it's", .prefixed "n" "/*"] :=
  tokenize_of_isSpelled isSpelled_sample

end SchemaDesigner.Script
