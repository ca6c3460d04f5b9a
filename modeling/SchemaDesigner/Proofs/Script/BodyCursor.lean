/-
The splitting of a body as a loop, with a cursor, the place where the current part begins and a
counter of the open parentheses.

* `BodyCursor`: where the loop stands;
* `BodyCursor.round`, `BodyCursor.run`: a round of the loop, and the loop. It fails where a part is
  cut out of places that there are not, or where the counter is lessened at zero;
* `BodyCursor.Stands`: which tokens have been read of the part, and which are ahead of the cursor;
* `BodyCursor.Stands.round_eq`, `BodyCursor.Stands.run_eq`: a round keeps the outcome, so the loop
  ends with that of `splitBody`, which has no places and cuts nothing out;
* `BodyCursor.splitsExactly`: the loop never fails. It ends where the statement ends if this comes
  before the matching parenthesis, and otherwise behind that parenthesis, with the parts between the
  outer commas.
-/
import Mathlib.Data.Nat.PSub
import SchemaDesigner.Proofs.Script.Balance

namespace SchemaDesigner.Script

/-! ### Tokens up to the end mark -/

/-- The tokens in front of the first mark of the end. -/
def upToEnd : List (Option Token) → List Token
  | some t :: r => t :: upToEnd r
  | _ => []

lemma upToEnd_append (ts : List Token) (rest : List (Option Token)) :
    upToEnd (ts.map some ++ rest) = ts ++ upToEnd rest := by
  induction ts with
  | nil => rfl
  | cons t ts ih => rw [List.map_cons, List.cons_append, upToEnd, ih, List.cons_append]

lemma head?_upToEnd (l : List (Option Token)) : (upToEnd l).head? = l.head?.join := by
  cases l with
  | nil => rfl
  | cons t r => cases t <;> rfl

/-- The tokens in front of the end mark stand in front of all others. -/
lemma exists_of_upToEnd_eq {l : List (Option Token)} {ts us : List Token}
    (h : upToEnd l = ts ++ us) : ∃ rest, l = ts.map some ++ rest ∧ upToEnd rest = us := by
  induction ts generalizing l with
  | nil => exact ⟨l, rfl, h⟩
  | cons t ts ih =>
    cases l with
    | nil => cases h
    | cons u l =>
      cases u with
      | none => cases h
      | some u =>
        obtain ⟨rfl, hrest⟩ := List.cons.inj h
        obtain ⟨rest, rfl, hus⟩ := ih hrest
        exact ⟨rest, rfl, hus⟩

/-! ### The loop -/

/-- Where the loop stands: the tokens of the script, among which `none` is the mark of the end, the
place where the current part begins, the place of the cursor, the number of open parentheses, and
the parts so far. -/
structure BodyCursor where
  tokens : List (Option Token)
  start : ℕ
  pos : ℕ
  depth : ℕ
  parts : List (List (Option Token))

namespace BodyCursor

/-- The parts, if the body is closed, and the place of the cursor. -/
abbrev Outcome := Option (List (List (Option Token))) × ℕ

/-- What a round of the loop comes to. -/
inductive Round
  | goesOn (c : BodyCursor)
  | ends (outcome : Outcome)

variable {c c' : BodyCursor} {t : Token} {read ts r : List Token}

/-- The token at the cursor. Behind the last place stands the end. -/
def current (c : BodyCursor) : Option Token :=
  c.tokens[c.pos]?.join

/-- The cursor at the next place, if there is one. -/
def advance (c : BodyCursor) : BodyCursor :=
  if c.pos < c.tokens.length then { c with pos := c.pos + 1 } else c

/-- The current part up to the cursor, if its places are in range. -/
def part? (c : BodyCursor) : Option (List (Option Token)) :=
  if c.start ≤ c.pos ∧ c.pos ≤ c.tokens.length then some (c.tokens.extract c.start c.pos) else none

lemma part?_eq_some_iff {p : List (Option Token)} : c.part? = some p
    ↔ (c.start ≤ c.pos ∧ c.pos ≤ c.tokens.length) ∧ c.tokens.extract c.start c.pos = p := by
  simp [part?]

/-- What a round of the loop does before the cursor goes on. It fails where a part is out of range
or nothing is left to be closed. -/
def round (c : BodyCursor) : Option Round :=
  match c.current with
  | some .lparen => some (.goesOn { c with depth := c.depth + 1 })
  | some .rparen =>
    if c.depth = 0 then c.part?.map fun p => .ends (some (c.parts ++ [p]), c.advance.pos)
    else c.depth.ppred.map fun depth => .goesOn { c with depth := depth }
  | some .comma =>
    if c.depth = 0 then
      c.part?.map fun p => .goesOn { c with parts := c.parts ++ [p], start := c.pos + 1 }
    else some (.goesOn c)
  | some (.keyword .create) | some .semicolon | none => some (.ends (none, c.pos))
  | some _ => some (.goesOn c)

lemma advance_of_lt (h : c.pos < c.tokens.length) : c.advance = { c with pos := c.pos + 1 } :=
  if_pos h

lemma lt_length_of_current (h : c.current = some t) : c.pos < c.tokens.length := by
  by_contra hpos
  rw [current, List.getElem?_eq_none (Nat.le_of_not_lt hpos)] at h
  cases h

lemma round_of_isPlain (h : c.current = some t) (ht : t.isPlain = true) :
    c.round = some (.goesOn c) := by
  rw [round, h]
  cases t with
  | keyword k => cases k <;> first | rfl | cases ht
  | lparen | rparen | comma | semicolon => cases ht
  | _ => rfl

lemma round_of_breaksBody (h : ∀ t ∈ c.current, t.breaksBody = true) :
    c.round = some (.ends (none, c.pos)) := by
  cases hcurrent : c.current with
  | none => rw [round, hcurrent]
  | some t =>
    rw [round, hcurrent]
    rcases Token.eq_of_breaksBody (h t hcurrent) with rfl | rfl
    · rfl
    · rfl

/-- A loop that goes on stands at a token and has not moved yet. -/
lemma round_goesOn (h : c.round = some (.goesOn c')) :
    c.pos < c.tokens.length ∧ c'.tokens = c.tokens ∧ c'.pos = c.pos := by
  rw [round] at h
  split at h
  · rename_i hcurrent
    cases h
    exact ⟨lt_length_of_current hcurrent, rfl, rfl⟩
  · rename_i hcurrent
    split_ifs at h
    · obtain ⟨p, -, hp⟩ := Option.map_eq_some_iff.mp h
      cases hp
    · obtain ⟨depth, -, hdepth⟩ := Option.map_eq_some_iff.mp h
      cases hdepth
      exact ⟨lt_length_of_current hcurrent, rfl, rfl⟩
  · rename_i hcurrent
    split_ifs at h
    · obtain ⟨p, -, hp⟩ := Option.map_eq_some_iff.mp h
      cases hp
      exact ⟨lt_length_of_current hcurrent, rfl, rfl⟩
    · cases h
      exact ⟨lt_length_of_current hcurrent, rfl, rfl⟩
  · cases h
  · cases h
  · cases h
  · rename_i hcurrent
    cases h
    exact ⟨lt_length_of_current hcurrent, rfl, rfl⟩

/-- The loop, from where it stands to its end. -/
def run (c : BodyCursor) : Option Outcome :=
  match _h : c.round with
  | none => none
  | some (.goesOn c') => run c'.advance
  | some (.ends outcome) => some outcome
termination_by c.tokens.length - c.pos
decreasing_by
  obtain ⟨hlt, htokens, hpos⟩ := round_goesOn _h
  rw [advance_of_lt (by rwa [htokens, hpos]), htokens, hpos]
  exact Nat.sub_lt_sub_left hlt (Nat.lt_succ_self c.pos)

/-! ### What is read and what is ahead -/

/-- Some tokens are those of the current part that have been read, and others are ahead of the
cursor, up to the end. -/
structure Stands (c : BodyCursor) (read ahead : List Token) : Prop where
  part?_eq : c.part? = some (read.map some)
  ahead_eq : upToEnd (c.tokens.drop c.pos) = ahead

namespace Stands

lemma current_eq (h : c.Stands read ts) : c.current = ts.head? := by
  rw [current, ← List.head?_drop, ← head?_upToEnd, h.ahead_eq]

lemma lt_length (h : c.Stands read (t :: r)) : c.pos < c.tokens.length :=
  lt_length_of_current h.current_eq

lemma ahead_tail (h : c.Stands read (t :: r)) : upToEnd (c.tokens.drop (c.pos + 1)) = r := by
  have hahead : upToEnd (c.tokens.drop c.pos) = [t] ++ r := h.ahead_eq
  obtain ⟨rest, hrest, hr⟩ := exists_of_upToEnd_eq hahead
  rw [← List.tail_drop, hrest]
  exact hr

/-- The token at the cursor goes to the part. -/
lemma advance (h : c.Stands read (t :: r)) (htokens : c'.tokens = c.tokens)
    (hstart : c'.start = c.start) (hpos : c'.pos = c.pos + 1) : c'.Stands (read ++ [t]) r where
  part?_eq := by
    have hlt := h.lt_length
    obtain ⟨⟨hstart_le, -⟩, hextract⟩ := part?_eq_some_iff.mp h.part?_eq
    have htoken : c.tokens[c.pos]? = some (some t) := by
      have hcurrent := h.current_eq
      rw [current, List.getElem?_eq_getElem hlt] at hcurrent
      rw [List.getElem?_eq_getElem hlt]
      exact congrArg some hcurrent
    rw [part?_eq_some_iff, htokens, hstart, hpos]
    refine ⟨by omega, ?_⟩
    -- one place more is cut out, the one of the cursor
    rw [List.extract_eq_take_drop] at hextract ⊢
    rw [Nat.succ_sub hstart_le, List.take_add_one, hextract, List.getElem?_drop,
      Nat.add_sub_cancel' hstart_le, htoken, List.map_append]
    rfl
  ahead_eq := by
    rw [htokens, hpos, h.ahead_tail]

/-- Behind a comma the next part begins. -/
lemma nextPart (h : c.Stands read (t :: r)) (htokens : c'.tokens = c.tokens)
    (hstart : c'.start = c.pos + 1) (hpos : c'.pos = c.pos + 1) : c'.Stands [] r where
  part?_eq := by
    have hlt := h.lt_length
    rw [part?_eq_some_iff, htokens, hstart, hpos]
    exact ⟨by omega, by simp⟩
  ahead_eq := by
    rw [htokens, hpos, h.ahead_tail]

end Stands

/-! ### The outcome -/

/-- The outcome of the loop, if some tokens of the current part have been read and others are
ahead, by the splitting of those ahead. -/
def outcome (c : BodyCursor) (read ahead : List Token) : Outcome :=
  ((splitBody c.depth ahead).1.map fun ps => c.parts ++ (read.foldr consPart ps).map (·.map some),
    c.pos + (ahead.length - (splitBody c.depth ahead).2.length))

/-- The loop goes on to where its outcome is the same. -/
def GoesOn (c : BodyCursor) (outcome : Outcome) : Prop :=
  ∃ c' read ahead, c.round = some (.goesOn c') ∧ c'.advance.Stands read ahead
    ∧ c'.advance.outcome read ahead = outcome

namespace Stands

/-- A token that goes to the part as it does in `splitBody` keeps the outcome. -/
lemma goesOn (h : c.Stands read (t :: r)) (depth : ℕ)
    (hround : c.round = some (.goesOn { c with depth := depth }))
    (hsplit : splitBody c.depth (t :: r)
      = ((splitBody depth r).1.map (consPart t), (splitBody depth r).2)) :
    c.GoesOn (c.outcome read (t :: r)) := by
  have hadvance : ({ c with depth := depth } : BodyCursor).advance
      = { c with depth := depth, pos := c.pos + 1 } := advance_of_lt h.lt_length
  refine ⟨_, read ++ [t], r, hround, ?_, ?_⟩
  · rw [hadvance]
    exact h.advance rfl rfl rfl
  · have hlength := length_splitBody_le depth r
    rw [hadvance, outcome, outcome, hsplit, Option.map_map]
    refine Prod.ext ?_ ?_
    · simp only [List.foldr_append]
      rfl
    · simp only [List.length_cons]
      omega

/-- An outer comma ends the part, which is then one of the parts of `splitBody`. -/
lemma goesOn_comma (h : c.Stands read (.comma :: r)) (hdepth : c.depth = 0) :
    c.GoesOn (c.outcome read (.comma :: r)) := by
  have hround : c.round = some (.goesOn
      { c with parts := c.parts ++ [read.map some], start := c.pos + 1 }) := by
    have hcurrent : c.current = some .comma := h.current_eq
    rw [round, hcurrent]
    simp only [hdepth, if_true]
    rw [h.part?_eq, Option.map_some]
  have hadvance : BodyCursor.advance
      { c with parts := c.parts ++ [read.map some], start := c.pos + 1 }
      = { c with parts := c.parts ++ [read.map some], start := c.pos + 1, pos := c.pos + 1 } :=
    advance_of_lt h.lt_length
  refine ⟨_, [], r, hround, ?_, ?_⟩
  · rw [hadvance]
    exact h.nextPart rfl rfl rfl
  · have hlength := length_splitBody_le 0 r
    rw [hadvance, outcome, outcome, hdepth, splitBody, if_pos rfl, Option.map_map]
    refine Prod.ext ?_ ?_
    · cases (splitBody 0 r).1 with
      | none => rfl
      | some ps => simp [foldr_consPart_cons]
    · simp only [List.length_cons]
      omega

/-- The matching parenthesis ends the last part, and the loop. -/
lemma ends_rparen (h : c.Stands read (.rparen :: r)) (hdepth : c.depth = 0) :
    c.round = some (.ends (c.outcome read (.rparen :: r))) := by
  have hcurrent : c.current = some .rparen := h.current_eq
  have houtcome : c.outcome read (.rparen :: r)
      = (some (c.parts ++ [read.map some]), c.pos + 1) := by
    rw [outcome, hdepth, splitBody, if_pos rfl]
    simp [foldr_consPart_cons]
  rw [round, hcurrent, houtcome]
  simp only [hdepth, if_true]
  rw [h.part?_eq, advance_of_lt h.lt_length, Option.map_some]

/-- Where the statement ends, the loop ends without parts. -/
lemma ends_of_breaksBody (h : c.Stands read ts) (hbreaks : ∀ t ∈ ts.head?, t.breaksBody = true) :
    c.round = some (.ends (c.outcome read ts)) := by
  rw [outcome, splitBody_of_breaksBody c.depth hbreaks, Nat.sub_self]
  exact round_of_breaksBody (h.current_eq ▸ hbreaks)

/-- A round ends with the outcome, or the loop goes on to where its outcome is the same. -/
theorem round_eq (h : c.Stands read ts) :
    c.round = some (.ends (c.outcome read ts)) ∨ c.GoesOn (c.outcome read ts) := by
  cases ts with
  | nil => exact .inl (h.ends_of_breaksBody fun t ht => by cases ht)
  | cons t r =>
    have hcurrent : c.current = some t := h.current_eq
    rcases t.isPlain_or with hplain | rfl | rfl | rfl | rfl | rfl
    · have hpass : splitBody c.depth (t :: r) = _ := Passes.of_isPlain hplain r
      exact .inr (h.goesOn c.depth (round_of_isPlain hcurrent hplain) hpass)
    · exact .inr (h.goesOn (c.depth + 1) (by rw [round, hcurrent]) rfl)
    · by_cases hdepth : c.depth = 0
      · exact .inl (h.ends_rparen hdepth)
      · obtain ⟨depth, hpred⟩ := Nat.exists_eq_add_one_of_ne_zero hdepth
        refine .inr (h.goesOn depth ?_ ?_)
        · rw [round, hcurrent]
          simp [hpred, Nat.ppred]
        · rw [splitBody, if_neg hdepth, hpred, Nat.add_sub_cancel]
    · by_cases hdepth : c.depth = 0
      · exact .inr (h.goesOn_comma hdepth)
      · refine .inr (h.goesOn c.depth ?_ ?_)
        · rw [round, hcurrent]
          simp [hdepth]
        · rw [splitBody, if_neg hdepth]
    · exact .inl (h.ends_of_breaksBody fun t ht => by cases ht; rfl)
    · exact .inl (h.ends_of_breaksBody fun t ht => by cases ht; rfl)

/-- So the loop ends, and with this outcome. -/
theorem run_eq (h : c.Stands read ts) : c.run = some (c.outcome read ts) := by
  -- on the rounds: where the loop goes on, its outcome is the one that it had
  fun_induction run c generalizing read ts with
  | case1 c hround =>
    rcases h.round_eq with hends | ⟨c', read', ahead, hgoes, -⟩
    · cases hround.symm.trans hends
    · cases hround.symm.trans hgoes
  | case2 c c' hround ih =>
    rcases h.round_eq with hends | ⟨c'', read', ahead, hgoes, hstands, houtcome⟩
    · cases hround.symm.trans hends
    · cases hround.symm.trans hgoes
      rw [ih hstands, houtcome]
  | case3 c outcome hround =>
    rcases h.round_eq with hends | ⟨c', read', ahead, hgoes, -⟩
    · cases hround.symm.trans hends
      rfl
    · cases hround.symm.trans hgoes

end Stands

/-! ### A body from its opening parenthesis on -/

/-- The loop at its beginning, right behind an opening parenthesis. -/
def behindParen (before body : List (Option Token)) : BodyCursor where
  tokens := before ++ some .lparen :: body
  start := before.length + 1
  pos := before.length + 1
  depth := 0
  parts := []

section Body

variable (before : List (Option Token)) {body : List (Option Token)} {rest : List Token}
  {parts? : Option (List (List Token))} {pos : ℕ}

lemma stands_behindParen (body : List (Option Token)) :
    (behindParen before body).Stands [] (upToEnd body) where
  part?_eq := by simp [behindParen, part?]
  ahead_eq := by simp [behindParen]

/-- A body is split as `splitBody` splits the tokens of it up to the end. -/
lemma run_behindParen (h : splitBody 0 (upToEnd body) = (parts?, rest))
    (hread : upToEnd body = read ++ rest) : (behindParen before body).run
      = some (parts?.map (·.map (·.map some)), before.length + 1 + read.length) := by
  have hlength : (upToEnd body).length - rest.length = read.length := by
    rw [hread, List.length_append, Nat.add_sub_cancel]
  have houtcome : (behindParen before body).outcome [] (upToEnd body)
      = (parts?.map (·.map (·.map some)), before.length + 1 + read.length) := by
    rw [outcome, show (behindParen before body).depth = 0 from rfl, h, hlength]
    rfl
  rw [(stands_behindParen before body).run_eq, houtcome]

/-- What the loop comes to is what `splitBody` reads. -/
lemma exists_splitBody_of_run {parts : Option (List (List (Option Token)))}
    (h : (behindParen before body).run = some (parts, pos)) :
    ∃ parts? read rest, splitBody 0 (upToEnd body) = (parts?, rest)
      ∧ upToEnd body = read ++ rest ∧ parts = parts?.map (·.map (·.map some))
      ∧ pos = before.length + 1 + read.length := by
  obtain ⟨read, hread⟩ := splitBody_suffix 0 (upToEnd body)
  have hrun := run_behindParen before rfl hread.symm
  obtain ⟨hparts, hpos⟩ := Prod.mk.inj (Option.some.inj (h.symm.trans hrun))
  exact ⟨_, read, _, rfl, hread.symm, hparts, hpos⟩

/-- Behind the tokens that are read of a body stand those that are left of it. -/
lemma upToEnd_drop_behindParen (hread : upToEnd body = read ++ rest) : upToEnd
    ((behindParen before body).tokens.drop (before.length + 1 + read.length)) = rest := by
  obtain ⟨rest', hbody, hrest⟩ := exists_of_upToEnd_eq hread
  have htokens : (behindParen before body).tokens
      = (before ++ some .lparen :: read.map some) ++ rest' := by
    rw [behindParen, hbody, List.append_assoc, List.cons_append]
  have hlength : (before ++ some .lparen :: read.map some).length
      = before.length + 1 + read.length := by
    simp only [List.length_append, List.length_cons, List.length_map]
    omega
  rw [htokens, ← hlength, List.drop_left, hrest]

/-- The loop finds no parts if and only if the body breaks off, and ends where it does. -/
lemma run_eq_none_iff : (behindParen before body).run = some (none, pos)
    ↔ ∃ read rest, body = read.map some ++ rest ∧ BreaksOff read rest.head?.join
      ∧ pos = before.length + 1 + read.length := by
  constructor
  · intro h
    obtain ⟨parts?, read, rest, hsplit, hread, hparts, rfl⟩ := exists_splitBody_of_run before h
    obtain rfl := Option.map_eq_none_iff.mp hparts.symm
    obtain ⟨read', hread', hbreaks⟩ := splitBody_eq_none_iff.mp hsplit
    obtain rfl := List.append_cancel_right (hread.symm.trans hread')
    obtain ⟨rest', hbody, rfl⟩ := exists_of_upToEnd_eq hread
    rw [head?_upToEnd] at hbreaks
    exact ⟨read, rest', hbody, hbreaks, rfl⟩
  · rintro ⟨read, rest, rfl, hbreaks, rfl⟩
    rw [← head?_upToEnd] at hbreaks
    have hread := upToEnd_append read rest
    exact run_behindParen before (splitBody_eq_none_iff.mpr ⟨read, hread, hbreaks⟩) hread

/-- The loop finds parts if and only if the body is closed and these are its parts, and ends behind
the parenthesis that closes it. -/
lemma run_eq_some_iff {parts : List (List (Option Token))} :
    (behindParen before body).run = some (some parts, pos)
      ↔ ∃ inside rest ps, body = inside.map some ++ some .rparen :: rest ∧ IsSplit inside ps
        ∧ parts = ps.map (·.map some) ∧ pos = before.length + 1 + inside.length + 1 := by
  constructor
  · intro h
    obtain ⟨parts?, read, rest, hbody, hread, hparts, rfl⟩ := exists_splitBody_of_run before h
    obtain ⟨ps, rfl, rfl⟩ := Option.map_eq_some_iff.mp hparts.symm
    obtain ⟨inside, hinside, hsplit⟩ := splitBody_eq_some_iff_isSplit.mp hbody
    rw [List.append_cons] at hinside
    obtain rfl := List.append_cancel_right (hread.symm.trans hinside)
    obtain ⟨rest', htokens, -⟩ := exists_of_upToEnd_eq hread
    rw [List.map_append, List.append_assoc] at htokens
    refine ⟨inside, rest', ps, htokens, hsplit, rfl, ?_⟩
    rw [List.length_append, ← Nat.add_assoc]
    rfl
  · rintro ⟨inside, rest, ps, rfl, hsplit, rfl, rfl⟩
    have hread : upToEnd (inside.map some ++ some .rparen :: rest)
        = inside ++ .rparen :: upToEnd rest := upToEnd_append inside (some .rparen :: rest)
    have hrun := run_behindParen before
      (splitBody_eq_some_iff_isSplit.mpr ⟨inside, hread, hsplit⟩)
      (hread.trans (List.append_cons _ _ _))
    rwa [List.length_append, ← Nat.add_assoc] at hrun

end Body

/-- What it means that the loop splits a body exactly, which stands behind the tokens `before` and
an opening parenthesis. -/
structure SplitsExactly (before body : List (Option Token)) : Prop where
  /-- The loop ends without having failed, with the parts that `splitBody` reads, and with the
  cursor at the tokens that `splitBody` leaves. -/
  agrees : ∃ pos, (behindParen before body).run
      = some ((splitBody 0 (upToEnd body)).1.map (·.map (·.map some)), pos)
    ∧ upToEnd ((behindParen before body).tokens.drop pos) = (splitBody 0 (upToEnd body)).2
  /-- It finds no parts if and only if the statement ends before the matching parenthesis. The
  cursor is then where the statement ends. -/
  eq_none_iff : ∀ pos, (behindParen before body).run = some (none, pos)
    ↔ ∃ read rest, body = read.map some ++ rest ∧ BreaksOff read rest.head?.join
      ∧ pos = before.length + 1 + read.length
  /-- It finds parts if and only if they are those of the tokens in front of the matching
  parenthesis. The cursor is then right behind the parenthesis. -/
  eq_some_iff : ∀ parts pos, (behindParen before body).run = some (some parts, pos)
    ↔ ∃ inside rest ps, body = inside.map some ++ some .rparen :: rest ∧ IsSplit inside ps
      ∧ parts = ps.map (·.map some) ∧ pos = before.length + 1 + inside.length + 1

/-- Behind an opening parenthesis a body is split exactly, whatever its tokens are. -/
theorem splitsExactly (before body : List (Option Token)) : SplitsExactly before body where
  agrees := by
    obtain ⟨read, hread⟩ := splitBody_suffix 0 (upToEnd body)
    exact ⟨_, run_behindParen before rfl hread.symm, upToEnd_drop_behindParen before hread.symm⟩
  eq_none_iff _ := run_eq_none_iff before
  eq_some_iff _ _ := run_eq_some_iff before

/-- The second comma is an outer one, and ends a part that has one of its own. -/
example : (behindParen [none]
    [some .lparen, some .comma, some .rparen, some .comma, some .rparen, none]).run
      = some (some [[some .lparen, some .comma, some .rparen], []], 7) := by
  cbv

/-- A mark of the end among the tokens ends the statement, with a parenthesis open. -/
example : (behindParen [] [some .lparen, some .comma, none, some .rparen, some .rparen]).run
    = some (none, 3) := by
  cbv

end BodyCursor

end SchemaDesigner.Script
