/-
Texts between delimiters, in which a delimiter is written twice.

* `doubled`: a text with each delimiter in it written twice;
* `readDelimited`: the text up to the closing delimiter, and what follows;
* `readDelimited_doubleChars_append`, `readDelimited_doubleChars`: reading what was written gives
  the text back.
-/

namespace SchemaDesigner.Text

/-- The characters of a text with each `q` written twice. -/
def doubleChars (q : Char) (cs : List Char) : List Char :=
  cs.flatMap fun c => if c = q then [q, q] else [c]

/-- A text with each `q` written twice. -/
def doubled (q : Char) (s : String) : String :=
  String.ofList (doubleChars q s.toList)

/-- A text between two `q`, with each `q` in it written twice. -/
def quoted (q : Char) (s : String) : String :=
  String.singleton q ++ doubled q s ++ String.singleton q

/-- Puts a character in front of what was read. -/
def consRead (c : Char) (p : List Char × List Char) : List Char × List Char :=
  (c :: p.1, p.2)

@[simp]
theorem consRead_fst (c : Char) (p : List Char × List Char) : (consRead c p).1 = c :: p.1 := rfl

@[simp]
theorem consRead_snd (c : Char) (p : List Char × List Char) : (consRead c p).2 = p.2 := rfl

/-- The text up to the closing delimiter, which stands for itself when it is written twice, and the
characters after it. Without a closing delimiter the text takes all. -/
def readDelimited (close : Char) : List Char → List Char × List Char
  | [] => ([], [])
  | [c] => if c = close then ([], []) else ([c], [])
  | c :: d :: r =>
    if c = close then
      if d = close then consRead close (readDelimited close r) else ([], d :: r)
    else consRead c (readDelimited close (d :: r))

theorem length_readDelimited_le (close : Char) (cs : List Char) :
    (readDelimited close cs).2.length ≤ cs.length := by
  fun_induction readDelimited close cs <;> simp_all <;> omega

theorem readDelimited_cons_of_ne {close c : Char} (h : c ≠ close) (r : List Char) :
    readDelimited close (c :: r) = consRead c (readDelimited close r) := by
  cases r <;> simp [readDelimited, h, consRead]

theorem readDelimited_close {close : Char} {r : List Char} (h : r.head? ≠ some close) :
    readDelimited close (close :: r) = ([], r) := by
  cases r <;> simp_all [readDelimited]

/-- What was written with doubled delimiters is read as it was, whatever follows it. -/
theorem readDelimited_doubleChars_append (close : Char) (cs r : List Char) :
    readDelimited close (doubleChars close cs ++ r)
      = (cs ++ (readDelimited close r).1, (readDelimited close r).2) := by
  induction cs with
  | nil => simp [doubleChars]
  | cons c cs ih =>
    by_cases hc : c = close
    · subst hc
      simp only [doubleChars, List.flatMap_cons, if_true, List.cons_append, List.nil_append]
        at ih ⊢
      simp [readDelimited, ih, consRead]
    · simp only [doubleChars, List.flatMap_cons, if_neg hc, List.cons_append,
        List.nil_append] at ih ⊢
      simp [readDelimited_cons_of_ne hc, ih, consRead]

/-- What was written between delimiters is read back, unless a delimiter follows. -/
theorem readDelimited_doubleChars (close : Char) (cs : List Char) {r : List Char}
    (h : r.head? ≠ some close) :
    readDelimited close (doubleChars close cs ++ close :: r) = (cs, r) := by
  rw [readDelimited_doubleChars_append, readDelimited_close h, List.append_nil]

end SchemaDesigner.Text
