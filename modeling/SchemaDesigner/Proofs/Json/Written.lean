/-
Values of JSON are read back as they were, with or without line breaks in between.

* `Json.IsWritable`: a value within a number of brackets whose numbers are read back;
* `Reads`, `Writes`: what a reader reads, and characters that write a document wherever they stand;
* `Writes.array`, `Writes.object`: brackets around what writes the inside;
* `writes_compact`, `writes_prettyAt`: both written forms;
* `Document.ofText_eq`: the same for whole texts;
* `Document.keepFault?_ofJson`, `Document.skipFault?_ofJson`: a written value has no faults.
-/
import SchemaDesigner.Proofs.Json.Number
import SchemaDesigner.Proofs.Json.Quoted

namespace SchemaDesigner.Json

/-- The value has at most `n` brackets around one another, and all its numbers are read back. -/
inductive IsWritable : ℕ → Json → Prop
  | null (n : ℕ) : IsWritable n .null
  | bool (n : ℕ) (b : Bool) : IsWritable n (.bool b)
  | number (n : ℕ) {x : Float} : IsReadBack x → IsWritable n (.number x)
  | string (n : ℕ) (s : String) : IsWritable n (.string s)
  | array {n : ℕ} {vs : List Json} : (∀ v ∈ vs, IsWritable n v) → IsWritable (n + 1) (.array vs)
  | object {n : ℕ} {ms : List (String × Json)} :
    (∀ m ∈ ms, IsWritable n m.2) → IsWritable (n + 1) (.object ms)

/-- A text that may be missing is writable at any depth. -/
lemma IsWritable.ofText? (n : ℕ) (s : Option String) : IsWritable n (ofText? s) := by
  cases s with
  | none => exact .null n
  | some t => exact .string n t

/-! ### White space -/

/-- There is nothing but white space. -/
def IsGap (gap : List Char) : Prop :=
  ∀ c ∈ gap, isSpace c = true

/-- White space in front makes no difference behind it. -/
lemma skipSpaces_append {gap : List Char} (h : IsGap gap) (cs : List Char) :
    skipSpaces (gap ++ cs) = skipSpaces cs :=
  List.dropWhile_append_of_pos h

lemma skipSpaces_cons {c : Char} (h : isSpace c = false) (r : List Char) :
    skipSpaces (c :: r) = c :: r :=
  List.dropWhile_cons_of_neg (by rw [h]; exact Bool.false_ne_true)

/-- A line break with its indent is white space. -/
lemma isGap_newLine (level : ℕ) : IsGap (newLine level).toList := by
  intro c hc
  rw [newLine, String.toList_append, String.toList_ofList, List.mem_append] at hc
  rcases hc with hc | hc
  · obtain rfl : c = '\n' := List.mem_singleton.mp hc
    rfl
  · rw [String.toList_ofList] at hc
    obtain ⟨-, rfl⟩ := List.mem_replicate.mp hc
    rfl

/-! ### What is read -/

/-- The reader gives `a` and leaves `r`. -/
def Reads {α : Type} {cs : List Char} (p : α × Rest cs) (a : α) (r : List Char) : Prop :=
  p.1 = a ∧ p.2.1 = r

/-- A value that begins with the first of some characters, and what follows it. -/
def bareValue (depth : ℕ) : List Char → Document × List Char
  | '[' :: r => (nested (depth + 1) (.array (readItems (depth + 1) r).1),
      (readItems (depth + 1) r).2.1)
  | '\x7b' :: r => (nested (depth + 1) (.object (readMembers (depth + 1) r).1),
      (readMembers (depth + 1) r).2.1)
  | cs => readScalar cs

variable {depth : ℕ} {cs gap r : List Char} {d : Document}

/-- A reader does not see white space in front. -/
lemma reads_readValue_iff :
    Reads (readValue depth cs) d r ↔ bareValue depth (skipSpaces cs) = (d, r) := by
  rw [readValue]
  split
  · rename_i s hs
    have hbare := congrArg (bareValue depth) hs
    rw [hbare, bareValue, Prod.mk.injEq]
    rfl
  · rename_i s hs
    have hbare := congrArg (bareValue depth) hs
    rw [hbare, bareValue, Prod.mk.injEq]
    rfl
  · rename_i hs ho
    rw [bareValue, Prod.ext_iff]
    · rfl
    · exact hs
    · exact ho

/-- The first character that is no white space does not close an array. -/
def StartsItem (cs : List Char) : Prop :=
  ∃ c s, skipSpaces cs = c :: s ∧ c ≠ ']'

/-- The characters write the document: they begin with something other than a closing bracket, and
the document is read from them whatever ends it. -/
structure Writes (depth : ℕ) (cs : List Char) (d : Document) : Prop where
  starts : StartsItem cs
  reads : ∀ r, EndsValue r → Reads (readValue depth (cs ++ r)) d r

lemma StartsItem.append (h : StartsItem cs) (r : List Char) : StartsItem (cs ++ r) := by
  obtain ⟨c, s, hbegins, hc⟩ := h
  refine ⟨c, s ++ r, ?_, hc⟩
  have hne : ¬(List.dropWhile isSpace cs).isEmpty = true := by
    rw [← skipSpaces, hbegins]
    exact Bool.false_ne_true
  rw [skipSpaces, List.dropWhile_append, if_neg hne, ← skipSpaces, hbegins]
  rfl

/-- A quoted text is its escaped characters between quotes. -/
lemma quotedText_toList (s : String) :
    (quotedText s).toList = '"' :: (s.toList.flatMap escapedChar ++ ['"']) := by
  simp only [quotedText, String.toList_append, String.toList_ofList]
  rfl

namespace Writes

/-- A value may have white space in front. -/
lemma prepend (h : Writes depth cs d) (hgap : IsGap gap) : Writes depth (gap ++ cs) d := by
  refine ⟨?_, fun r hr => ?_⟩
  · rw [StartsItem, skipSpaces_append hgap]
    exact h.starts
  · rw [reads_readValue_iff, List.append_assoc, skipSpaces_append hgap, ← reads_readValue_iff]
    exact h.reads r hr

/-- Values without brackets. -/
lemma scalar {c : Char} {s : List Char} (hspace : isSpace c = false)
    (hopen : c ≠ '[' ∧ c ≠ '\x7b' ∧ c ≠ ']')
    (h : ∀ r, EndsValue r → readScalar (c :: s ++ r) = (d, r)) : Writes depth (c :: s) d := by
  refine ⟨⟨c, s, skipSpaces_cons hspace s, hopen.2.2⟩, fun r hr => ?_⟩
  rw [reads_readValue_iff, List.cons_append, skipSpaces_cons hspace, bareValue, ← List.cons_append,
    h r hr]
  · exact fun s hs => hopen.1 (List.cons.inj hs).1
  · exact fun s hs => hopen.2.1 (List.cons.inj hs).1

lemma null : Writes depth "null".toList .null :=
  scalar (c := 'n') (by decide) (by decide) fun _ _ => rfl

lemma bool (b : Bool) : Writes depth (if b then "true" else "false").toList (.bool b) := by
  cases b with
  | true => exact scalar (c := 't') (by decide) (by decide) fun _ _ => rfl
  | false => exact scalar (c := 'f') (by decide) (by decide) fun _ _ => rfl

/-- A number that is read back is read from its own text. -/
lemma number {x : Float} (h : IsReadBack x) :
    Writes depth (numberText x).toList (.number (some (.float x))) := by
  obtain ⟨numeral, hnumeral, -⟩ := id h
  obtain ⟨c, s, hcs, hc⟩ := exists_of_readNumeral hnumeral
  have hread : ∀ r, EndsValue r → readScalar (c :: s ++ r) = (.number (some (.float x)), r) :=
    fun r hr => hcs ▸ h.readScalar_append hr
  have hne : ∀ d : Char, d ≠ '-' → d.isDigit = false → c ≠ d := by
    rintro d hminus hdigit rfl
    exact hc.elim hminus fun h => absurd h (by rw [hdigit]; exact Bool.false_ne_true)
  rw [hcs]
  refine scalar ?_ ⟨?_, ?_, ?_⟩ hread
  · simp only [isSpace, Bool.or_eq_false_iff, beq_eq_false_iff_ne]
    exact ⟨⟨⟨hne _ (by decide) (by decide), hne _ (by decide) (by decide)⟩,
      hne _ (by decide) (by decide)⟩, hne _ (by decide) (by decide)⟩
  all_goals exact hne _ (by decide) (by decide)

/-- A text is read from its own quoted form. -/
lemma string (s : String) : Writes depth (quotedText s).toList (.string (.ok s)) := by
  rw [quotedText_toList]
  refine scalar (by decide) (by decide) fun r _ => ?_
  rw [List.cons_append, List.append_assoc, readScalar, List.singleton_append, readText_escapedChars]

end Writes

/-! ### Items -/

/-- A value may end with white space and then a comma or a closing bracket. -/
lemma EndsValue.append {c : Char} (hgap : IsGap gap) (h : c = ',' ∨ c = ']' ∨ c = '\x7d')
    (r : List Char) : EndsValue (gap ++ c :: r) := by
  cases gap with
  | nil => exact .cons (.inr h) r
  | cons g gap => exact .cons (.inl (hgap g List.mem_cons_self)) _

lemma skipSpaces_gap {c : Char} (hgap : IsGap gap) (h : isSpace c = false) (r : List Char) :
    skipSpaces (gap ++ c :: r) = c :: r := by
  rw [skipSpaces_append hgap, skipSpaces_cons h]

variable {is : Items}

/-- The last item and the closing bracket. -/
lemma Writes.readItem_last (h : Writes depth cs d) (hgap : IsGap gap) :
    Reads (readItem depth (cs ++ (gap ++ ']' :: r))) (.item d .close) r := by
  have hvalue := h.reads _ (EndsValue.append (r := r) hgap (.inr (.inl rfl)))
  rw [readItem]
  generalize readValue depth (cs ++ (gap ++ ']' :: r)) = read at hvalue ⊢
  obtain ⟨value, after⟩ := read
  obtain ⟨hd, hafter⟩ := hvalue
  dsimp only at hd hafter ⊢
  have hclose : skipSpaces after.1 = ']' :: r := by
    rw [hafter, skipSpaces_gap hgap (by decide)]
  split
  · rename_i hs
    cases hclose.symm.trans hs
  · rename_i s hs
    obtain rfl := (List.cons.inj (hclose.symm.trans hs)).2
    exact ⟨congrArg (Items.item · .close) hd, rfl⟩
  · rename_i s hs
    cases hclose.symm.trans hs
  · rename_i hs _
    exact absurd hclose (hs r)

/-- An item in front of others. -/
lemma Writes.readItem_next (h : Writes depth cs d) {next : List Char} (hnext : StartsItem next)
    (hi : Reads (readItem depth next) is r) :
    Reads (readItem depth (cs ++ ',' :: next)) (.item d is) r := by
  obtain ⟨c, s, hbegins, hc⟩ := hnext
  have hvalue := h.reads _ (.cons (.inr (.inl rfl)) next)
  rw [readItem]
  generalize readValue depth (cs ++ ',' :: next) = read at hvalue ⊢
  obtain ⟨value, after⟩ := read
  obtain ⟨hd, hafter⟩ := hvalue
  dsimp only at hd hafter ⊢
  have hcomma : skipSpaces after.1 = ',' :: next := by
    rw [hafter, skipSpaces_cons (by decide)]
  split
  · rename_i hs
    cases hcomma.symm.trans hs
  · rename_i s hs
    cases hcomma.symm.trans hs
  · rename_i s hs
    obtain rfl := (List.cons.inj (hcomma.symm.trans hs)).2
    split
    · rename_i hnil
      cases hbegins.symm.trans hnil
    · rename_i t hclose
      exact absurd (List.cons.inj (hbegins.symm.trans hclose)).1 hc
    · exact ⟨congrArg₂ Items.item hd hi.1, hi.2⟩
  · rename_i hs
    exact absurd hcomma (hs next)

/-- The characters write items, separated by commas. -/
inductive WritesItems (depth : ℕ) : List Char → Items → Prop
  | last {cs : List Char} {d : Document} :
    Writes depth cs d → WritesItems depth cs (.item d .close)
  | next {cs next : List Char} {d : Document} {is : Items} :
    Writes depth cs d → WritesItems depth next is →
    WritesItems depth (cs ++ ',' :: next) (.item d is)

namespace WritesItems

lemma starts (h : WritesItems depth cs is) : StartsItem cs := by
  cases h with
  | last h => exact h.starts
  | next h _ => exact h.starts.append _

/-- Items are read up to the bracket that closes them. -/
lemma reads (h : WritesItems depth cs is) (hgap : IsGap gap) :
    Reads (readItem depth (cs ++ (gap ++ ']' :: r))) is r := by
  induction h with
  | last h => exact h.readItem_last hgap
  | next h hs ih =>
    rw [List.append_assoc, List.cons_append]
    exact h.readItem_next (hs.starts.append _) ih

lemma reads_readItems (h : WritesItems depth cs is) (hgap : IsGap gap) :
    Reads (readItems depth (cs ++ (gap ++ ']' :: r))) is r := by
  obtain ⟨c, s, hbegins, hc⟩ := h.starts.append (gap ++ ']' :: r)
  rw [readItems]
  split
  · rename_i hs
    cases hbegins.symm.trans hs
  · rename_i t hs
    exact absurd (List.cons.inj (hbegins.symm.trans hs)).1 hc
  · exact h.reads hgap

lemma prepend (h : WritesItems depth cs is) (hgap : IsGap gap) :
    WritesItems depth (gap ++ cs) is := by
  cases h with
  | last h => exact .last (h.prepend hgap)
  | next h hs =>
    rw [← List.append_assoc]
    exact .next (h.prepend hgap) hs

end WritesItems

/-- A value in brackets has one more bracket around it. -/
lemma Writes.array (h : WritesItems (depth + 1) cs is) (hgap : IsGap gap)
    (hdepth : depth + 1 ≤ greatestDepth) :
    Writes depth ('[' :: (cs ++ (gap ++ [']']))) (.array is) := by
  refine ⟨⟨'[', _, skipSpaces_cons (by decide) _, by decide⟩, fun r _ => ?_⟩
  obtain ⟨his, hrest⟩ := h.reads_readItems (r := r) hgap
  have hcs : cs ++ (gap ++ [']']) ++ r = cs ++ (gap ++ ']' :: r) := by simp
  rw [reads_readValue_iff, List.cons_append, skipSpaces_cons (by decide), bareValue, hcs, his,
    hrest, nested, if_pos hdepth]

lemma Writes.emptyArray (hdepth : depth + 1 ≤ greatestDepth) :
    Writes depth "[]".toList (.array .close) := by
  refine ⟨⟨'[', _, skipSpaces_cons (by decide) _, by decide⟩, fun r _ => ?_⟩
  have hclose : Reads (readItems (depth + 1) (']' :: r)) .close r := by
    rw [readItems]
    split
    · rename_i hs
      cases hs
    · rename_i s hs
      obtain rfl := (List.cons.inj hs).2
      exact ⟨rfl, rfl⟩
    · rename_i hs
      exact absurd (skipSpaces_cons (by decide) r) (hs r)
  change Reads (readValue depth ('[' :: ']' :: r)) _ r
  rw [reads_readValue_iff, skipSpaces_cons (by decide), bareValue, hclose.1, hclose.2, nested,
    if_pos hdepth]

/-! ### Members -/

/-- A member after the opening quote of its key. -/
def memberBody (key : String) (value : List Char) : List Char :=
  key.toList.flatMap escapedChar ++ '"' :: ':' :: value

variable {ms : Members} {key : String}

/-- The last member and the closing brace. -/
lemma Writes.readMember_last (h : Writes depth cs d) (hgap : IsGap gap) :
    Reads (readMember depth (memberBody key (cs ++ (gap ++ '\x7d' :: r))))
      (.member (.ok key) d .close) r := by
  have hkey := readText_escapedChars key (':' :: (cs ++ (gap ++ '\x7d' :: r)))
  have hcolon := skipSpaces_cons (c := ':') (by decide) (cs ++ (gap ++ '\x7d' :: r))
  have hvalue := h.reads _ (EndsValue.append (r := r) hgap (.inr (.inr rfl)))
  rw [memberBody, readMember]
  split
  · rename_i hs
    cases hkey.symm.trans hs
  rename_i k afterKey hs
  obtain ⟨hk, rfl⟩ := Prod.mk.inj (Except.ok.inj (hkey.symm.trans hs))
  subst hk
  split
  · rename_i s hs
    obtain rfl := (List.cons.inj (hcolon.symm.trans hs)).2
    generalize readValue depth (cs ++ (gap ++ '\x7d' :: r)) = read at hvalue ⊢
    obtain ⟨value, after⟩ := read
    obtain ⟨hd, hafter⟩ := hvalue
    dsimp only at hd hafter ⊢
    have hclose : skipSpaces after.1 = '\x7d' :: r := by
      rw [hafter, skipSpaces_gap hgap (by decide)]
    split
    · rename_i hs
      cases hclose.symm.trans hs
    · rename_i s hs
      obtain rfl := (List.cons.inj (hclose.symm.trans hs)).2
      exact ⟨congrArg (Members.member (.ok key) · .close) hd, rfl⟩
    · rename_i s hs
      cases hclose.symm.trans hs
    · rename_i hs _
      exact absurd hclose (hs r)
  · rename_i hs
    cases hcolon.symm.trans hs
  · rename_i hs _
    exact absurd hcolon (hs _)

/-- A member in front of others. -/
lemma Writes.readMember_next (h : Writes depth cs d) (hgap : IsGap gap) {next : List Char}
    (hms : Reads (readMember depth next) ms r) :
    Reads (readMember depth (memberBody key (cs ++ ',' :: (gap ++ '"' :: next))))
      (.member (.ok key) d ms) r := by
  have hkey := readText_escapedChars key (':' :: (cs ++ ',' :: (gap ++ '"' :: next)))
  have hcolon := skipSpaces_cons (c := ':') (by decide) (cs ++ ',' :: (gap ++ '"' :: next))
  have hvalue := h.reads _ (.cons (.inr (.inl rfl)) (gap ++ '"' :: next))
  have hquote : skipSpaces (gap ++ '"' :: next) = '"' :: next := skipSpaces_gap hgap (by decide) _
  rw [memberBody, readMember]
  split
  · rename_i hs
    cases hkey.symm.trans hs
  rename_i k afterKey hs
  obtain ⟨hk, rfl⟩ := Prod.mk.inj (Except.ok.inj (hkey.symm.trans hs))
  subst hk
  split
  · rename_i s hs
    obtain rfl := (List.cons.inj (hcolon.symm.trans hs)).2
    generalize readValue depth (cs ++ ',' :: (gap ++ '"' :: next)) = read at hvalue ⊢
    obtain ⟨value, after⟩ := read
    obtain ⟨hd, hafter⟩ := hvalue
    dsimp only at hd hafter ⊢
    have hcomma : skipSpaces after.1 = ',' :: (gap ++ '"' :: next) := by
      rw [hafter, skipSpaces_cons (by decide)]
    split
    · rename_i hs
      cases hcomma.symm.trans hs
    · rename_i s hs
      cases hcomma.symm.trans hs
    · rename_i s hs
      obtain rfl := (List.cons.inj (hcomma.symm.trans hs)).2
      split
      · rename_i hnil
        cases hquote.symm.trans hnil
      · rename_i t hbrace
        cases hquote.symm.trans hbrace
      · rename_i t hmember
        obtain rfl := (List.cons.inj (hquote.symm.trans hmember)).2
        exact ⟨congrArg₂ (Members.member (.ok key)) hd hms.1, hms.2⟩
      · rename_i hs
        exact absurd hquote (hs next)
    · rename_i hs
      exact absurd hcomma (hs _)
  · rename_i hs
    cases hcolon.symm.trans hs
  · rename_i hs _
    exact absurd hcolon (hs _)

/-- The characters write members from the opening quote of the first key on, separated by
commas. -/
inductive WritesMembers (depth : ℕ) : List Char → Members → Prop
  | last {cs : List Char} {key : String} {d : Document} :
    Writes depth cs d → WritesMembers depth (memberBody key cs) (.member (.ok key) d .close)
  | next {cs gap next : List Char} {key : String} {d : Document} {ms : Members} :
    Writes depth cs d → IsGap gap → WritesMembers depth next ms →
    WritesMembers depth (memberBody key (cs ++ ',' :: (gap ++ '"' :: next)))
      (.member (.ok key) d ms)

lemma memberBody_append (key : String) (cs r : List Char) :
    memberBody key cs ++ r = memberBody key (cs ++ r) := by
  simp only [memberBody, List.append_assoc, List.cons_append]

/-- Members are read up to the bracket that closes them. -/
lemma WritesMembers.reads (h : WritesMembers depth cs ms) (hgap : IsGap gap) :
    Reads (readMember depth (cs ++ (gap ++ '\x7d' :: r))) ms r := by
  induction h with
  | last h =>
    rw [memberBody_append]
    exact h.readMember_last hgap
  | next h hnext hs ih =>
    rw [memberBody_append, List.append_assoc, List.cons_append, List.append_assoc,
      List.cons_append]
    exact h.readMember_next hnext ih

lemma WritesMembers.reads_readMembers (h : WritesMembers depth cs ms) {before : List Char}
    (hbefore : IsGap before) (hgap : IsGap gap) :
    Reads (readMembers depth (before ++ '"' :: (cs ++ (gap ++ '\x7d' :: r)))) ms r := by
  have hquote := skipSpaces_gap hbefore (c := '"') (by decide) (cs ++ (gap ++ '\x7d' :: r))
  rw [readMembers]
  split
  · rename_i hs
    cases hquote.symm.trans hs
  · rename_i s hs
    cases hquote.symm.trans hs
  · rename_i s hs
    obtain rfl := (List.cons.inj (hquote.symm.trans hs)).2
    exact h.reads hgap
  · rename_i hs
    exact absurd hquote (hs _)

/-- Members in braces have one more bracket around them. -/
lemma Writes.object (h : WritesMembers (depth + 1) cs ms) {before : List Char}
    (hbefore : IsGap before) (hgap : IsGap gap) (hdepth : depth + 1 ≤ greatestDepth) :
    Writes depth ('\x7b' :: (before ++ '"' :: (cs ++ (gap ++ ['\x7d'])))) (.object ms) := by
  refine ⟨⟨'\x7b', _, skipSpaces_cons (by decide) _, by decide⟩, fun r _ => ?_⟩
  obtain ⟨hms, hrest⟩ := h.reads_readMembers (r := r) hbefore hgap
  have hcs : before ++ '"' :: (cs ++ (gap ++ ['\x7d'])) ++ r
      = before ++ '"' :: (cs ++ (gap ++ '\x7d' :: r)) := by simp
  rw [reads_readValue_iff, List.cons_append, skipSpaces_cons (by decide), bareValue, hcs, hms,
    hrest, nested, if_pos hdepth]

lemma Writes.emptyObject (hdepth : depth + 1 ≤ greatestDepth) :
    Writes depth "\x7b\x7d".toList (.object .close) := by
  refine ⟨⟨'\x7b', _, skipSpaces_cons (by decide) _, by decide⟩, fun r _ => ?_⟩
  have hclose : Reads (readMembers (depth + 1) ('\x7d' :: r)) .close r := by
    rw [readMembers]
    split
    · rename_i hs
      cases hs
    · rename_i s hs
      obtain rfl := (List.cons.inj hs).2
      exact ⟨rfl, rfl⟩
    · rename_i s hs
      cases hs
    · rename_i hs _
      exact absurd (skipSpaces_cons (by decide) r) (hs r)
  change Reads (readValue depth ('\x7b' :: '\x7d' :: r)) _ r
  rw [reads_readValue_iff, skipSpaces_cons (by decide), bareValue, hclose.1, hclose.2, nested,
    if_pos hdepth]

/-! ### Both written forms -/

variable {n level : ℕ} {v : Json}

lemma isGap_nil : IsGap [] := fun _ h => nomatch h

lemma isGap_space : IsGap [' '] := fun _ h => by rw [List.mem_singleton.mp h]; rfl

/-- Items in any written form, with a gap behind each comma. -/
lemma writesItems_intercalate {f : Json → List Char} (hgap : IsGap gap) {w : Json}
    {ws : List Json} (h : ∀ v ∈ w :: ws, Writes depth (f v) (.ofJson v)) :
    WritesItems depth ((',' :: gap).intercalate ((w :: ws).map f)) (.ofJson (w :: ws)) := by
  induction ws generalizing w with
  | nil =>
    rw [List.map_singleton, List.intercalate_singleton]
    exact .last (h w List.mem_cons_self)
  | cons u us ih =>
    have hitems := (ih fun v hv => h v (List.mem_cons_of_mem w hv)).prepend hgap
    rw [List.map_cons, List.map_cons, List.intercalate_cons_cons, List.append_assoc,
      List.cons_append]
    exact .next (h w List.mem_cons_self) hitems

lemma quotedText_append (s : String) (cs : List Char) :
    (quotedText s).toList ++ ':' :: cs = '"' :: memberBody s cs := by
  rw [quotedText_toList, List.cons_append, List.append_assoc]
  rfl

/-- A member in any written form. -/
def memberText (text : Json → List Char) (m : String × Json) : List Char :=
  (quotedText m.1).toList ++ ':' :: text m.2

/-- Members in any written form, with a gap behind each comma. -/
lemma writesMembers_intercalate {f : Json → List Char} (hgap : IsGap gap) {m : String × Json}
    {ms : List (String × Json)} (h : ∀ m' ∈ m :: ms, Writes depth (f m'.2) (.ofJson m'.2)) :
    ∃ cs, (',' :: gap).intercalate ((m :: ms).map (memberText f)) = '"' :: cs
      ∧ WritesMembers depth cs (.ofJson (m :: ms)) := by
  induction ms generalizing m with
  | nil =>
    refine ⟨memberBody m.1 (f m.2), ?_, .last (h m List.mem_cons_self)⟩
    rw [List.map_singleton, List.intercalate_singleton, memberText, quotedText_append]
  | cons m' ms ih =>
    obtain ⟨cs, hcs, hms⟩ := ih fun a ha => h a (List.mem_cons_of_mem m ha)
    refine ⟨_, ?_, .next (h m List.mem_cons_self) hgap hms⟩
    rw [List.map_cons, List.map_cons, List.intercalate_cons_cons, ← List.map_cons, hcs,
      List.append_assoc, memberText, quotedText_append, List.cons_append, memberBody_append,
      List.cons_append]

/-- The compact items are the compact values with commas between them. -/
lemma compactItems_toList : ∀ vs : List Json, (compactItems vs).toList
    = [','].intercalate (vs.map fun v => v.compact.toList)
  | [] => rfl
  | [v] => by rw [List.map_singleton, List.intercalate_singleton, compactItems]
  | v :: w :: vs => by
    have ih := compactItems_toList (w :: vs)
    rw [List.map_cons] at ih
    rw [List.map_cons, List.map_cons, List.intercalate_cons_cons, ← ih]
    simp [compactItems]

/-- The items on lines of their own are the values with commas and line breaks between them. -/
lemma prettyItems_toList : ∀ vs : List Json, (prettyItems level vs).toList
    = (',' :: (newLine level).toList).intercalate (vs.map fun v => (v.prettyAt level).toList)
  | [] => rfl
  | [v] => by rw [List.map_singleton, List.intercalate_singleton, prettyItems]
  | v :: w :: vs => by
    have ih := prettyItems_toList (w :: vs)
    rw [List.map_cons] at ih
    rw [List.map_cons, List.map_cons, List.intercalate_cons_cons, ← ih]
    simp [prettyItems]

lemma compactMembers_toList : ∀ ms : List (String × Json), (compactMembers ms).toList
    = [','].intercalate (ms.map (memberText fun v => v.compact.toList))
  | [] => rfl
  | [(k, v)] => by
    rw [List.map_singleton, List.intercalate_singleton]
    simp [compactMembers, memberText]
  | (k, v) :: m :: ms => by
    have ih := compactMembers_toList (m :: ms)
    rw [List.map_cons] at ih
    rw [List.map_cons, List.map_cons, List.intercalate_cons_cons, ← ih]
    simp [compactMembers, memberText]

lemma prettyMembers_toList : ∀ ms : List (String × Json), (prettyMembers level ms).toList
    = (',' :: (newLine level).toList).intercalate
      (ms.map (memberText fun v => [' '] ++ (v.prettyAt level).toList))
  | [] => rfl
  | [(k, v)] => by
    rw [List.map_singleton, List.intercalate_singleton]
    simp [prettyMembers, memberText]
  | (k, v) :: m :: ms => by
    have ih := prettyMembers_toList (m :: ms)
    rw [List.map_cons] at ih
    rw [List.map_cons, List.map_cons, List.intercalate_cons_cons, ← ih]
    simp [prettyMembers, memberText]

/-- A value is read from its written form without blanks. -/
theorem writes_compact (h : IsWritable n v) (hdepth : depth + n ≤ greatestDepth) :
    Writes depth v.compact.toList (.ofJson v) := by
  induction h generalizing depth with
  | null => exact .null
  | bool n b => exact .bool b
  | number n hx => exact .number hx
  | string n s => exact .string s
  | @array n vs _ ih =>
    have hinside : depth + 1 + n ≤ greatestDepth := by omega
    cases vs with
    | nil => exact .emptyArray (by omega)
    | cons w ws =>
      have hitems := writesItems_intercalate
        (f := fun v => v.compact.toList) isGap_nil fun v hv => ih v hv hinside
      rw [← compactItems_toList] at hitems
      have htext : (compact (.array (w :: ws))).toList
          = '[' :: ((compactItems (w :: ws)).toList ++ ([] ++ [']'])) := by
        simp [compact]
      rw [htext]
      exact .array hitems isGap_nil (by omega)
  | @object n ms _ ih =>
    have hinside : depth + 1 + n ≤ greatestDepth := by omega
    cases ms with
    | nil => exact .emptyObject (by omega)
    | cons m ms =>
      obtain ⟨cs, hcs, hmembers⟩ := writesMembers_intercalate
        (f := fun v => v.compact.toList) isGap_nil fun m hm => ih m hm hinside
      rw [← compactMembers_toList] at hcs
      have htext : (compact (.object (m :: ms))).toList
          = '\x7b' :: ([] ++ '"' :: (cs ++ ([] ++ ['\x7d']))) := by
        simp [compact, hcs]
      rw [htext]
      exact .object hmembers isGap_nil isGap_nil (by omega)

/-- A value is read from its written form on lines. -/
theorem writes_prettyAt (h : IsWritable n v) (hdepth : depth + n ≤ greatestDepth) :
    Writes depth (v.prettyAt level).toList (.ofJson v) := by
  induction h generalizing depth level with
  | null => exact .null
  | bool n b => exact .bool b
  | number n hx => exact .number hx
  | string n s => exact .string s
  | @array n vs _ ih =>
    have hinside : depth + 1 + n ≤ greatestDepth := by omega
    cases vs with
    | nil => exact .emptyArray (by omega)
    | cons w ws =>
      have hitems := writesItems_intercalate
        (f := fun v => (v.prettyAt (level + 1)).toList) (isGap_newLine (level + 1))
        fun v hv => ih v hv hinside
      rw [← prettyItems_toList] at hitems
      have htext : (prettyAt level (.array (w :: ws))).toList
          = '[' :: ((newLine (level + 1)).toList ++ (prettyItems (level + 1) (w :: ws)).toList
            ++ ((newLine level).toList ++ [']'])) := by
        simp [prettyAt]
      rw [htext]
      exact .array (hitems.prepend (isGap_newLine _)) (isGap_newLine level) (by omega)
  | @object n ms _ ih =>
    have hinside : depth + 1 + n ≤ greatestDepth := by omega
    cases ms with
    | nil => exact .emptyObject (by omega)
    | cons m ms =>
      obtain ⟨cs, hcs, hmembers⟩ := writesMembers_intercalate
        (f := fun v => [' '] ++ (v.prettyAt (level + 1)).toList) (isGap_newLine (level + 1))
        fun m hm => (ih m hm hinside).prepend isGap_space
      rw [← prettyMembers_toList] at hcs
      have htext : (prettyAt level (.object (m :: ms))).toList
          = '\x7b' :: ((newLine (level + 1)).toList
            ++ '"' :: (cs ++ ((newLine level).toList ++ ['\x7d']))) := by
        simp [prettyAt, hcs]
      rw [htext]
      exact .object hmembers (isGap_newLine _) (isGap_newLine level) (by omega)

/-- The text is one of the two written forms of the value. -/
inductive IsWrittenAs (v : Json) : String → Prop
  | compact : IsWrittenAs v v.compact
  | pretty : IsWrittenAs v v.pretty

/-- A whole text that writes a value is read as it, and nothing follows. -/
theorem Document.ofText_eq {s : String} (h : IsWritable n v) (hdepth : n ≤ greatestDepth)
    (hs : IsWrittenAs v s) : Document.ofText s = (.ofJson v, false) := by
  have hdepth : 0 + n ≤ greatestDepth := by omega
  have hwrites : Writes 0 s.toList (.ofJson v) := by
    cases hs with
    | compact => exact writes_compact h hdepth
    | pretty => exact writes_prettyAt h hdepth
  obtain ⟨hvalue, hrest⟩ := hwrites.reads [] .nil
  rw [List.append_nil] at hvalue hrest
  rw [Document.ofText]
  dsimp only
  rw [hvalue, hrest]
  rfl

/-! ### Written values have no faults -/

mutual

/-- The document of a value has no fault that is found when it is kept. -/
theorem Document.keepFault?_ofJson : ∀ v : Json, (Document.ofJson v).keepFault? = none
  | .null | .bool _ | .number _ | .string _ => rfl
  | .array vs => Items.keepFault?_ofJson vs
  | .object ms => Members.keepFault?_ofJson ms

theorem Items.keepFault?_ofJson : ∀ vs : List Json, (Items.ofJson vs).keepFault? = none
  | [] => rfl
  | v :: vs => by
    rw [Items.ofJson, Items.keepFault?, Document.keepFault?_ofJson v,
      Items.keepFault?_ofJson vs]
    rfl

theorem Members.keepFault?_ofJson :
    ∀ ms : List (String × Json), (Members.ofJson ms).keepFault? = none
  | [] => rfl
  | (_, v) :: ms => by
    rw [Members.ofJson, Members.keepFault?, Document.keepFault?_ofJson v,
      Members.keepFault?_ofJson ms]
    rfl

end

mutual

/-- Where a reader that keeps the value meets no fault, one that passes over it meets none. -/
theorem Document.skipFault?_eq_none : ∀ {d : Document}, d.keepFault? = none → d.skipFault? = none
  | .null, _ | .bool _, _ | .number _, _ | .string _, _ => rfl
  | .array _, h => Items.skipFault?_eq_none h
  | .object _, h => Members.skipFault?_eq_none h

theorem Items.skipFault?_eq_none : ∀ {is : Items}, is.keepFault? = none → is.skipFault? = none
  | .close, _ => rfl
  | .item value rest, h => by
    obtain ⟨hvalue, hrest⟩ := Option.or_eq_none_iff.mp h
    rw [Items.skipFault?, Document.skipFault?_eq_none hvalue, Items.skipFault?_eq_none hrest]
    rfl

theorem Members.skipFault?_eq_none :
    ∀ {ms : Members}, ms.keepFault? = none → ms.skipFault? = none
  | .close, _ => rfl
  | .member key value rest, h => by
    obtain ⟨hmember, hrest⟩ := Option.or_eq_none_iff.mp h
    obtain ⟨-, hvalue⟩ := Option.or_eq_none_iff.mp hmember
    rw [Members.skipFault?, Document.skipFault?_eq_none hvalue,
      Members.skipFault?_eq_none hrest]
    rfl

end

/-- The document of a value has no fault that is found when it is skipped. -/
theorem Document.skipFault?_ofJson (v : Json) : (Document.ofJson v).skipFault? = none :=
  Document.skipFault?_eq_none (Document.keepFault?_ofJson v)

end SchemaDesigner.Json
