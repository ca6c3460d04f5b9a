/-
Actions behind the reference of a column, such as ON DELETE CASCADE: which of them change the
column.

* `Behaviour`, `Action`: the actions as they are written, in any case;
* `mem_of_lastDefault`, `lastDefault_append_default`: of the defaults of a column the last one
  counts;
* `readOptions_action_append`: an action is passed over, except that SET DEFAULT begins a default;
* `behindActions`: the default that this is, and what is left of the options behind;
* `readColumn?_actions_iff`: the actions do not count exactly if none of them sets a default, or if
  the default and the counting of the column are the same without them.
-/
import SchemaDesigner.Proofs.Script.Apart
import SchemaDesigner.Proofs.Script.Clause

namespace SchemaDesigner.Script

/-! ### Actions -/

/-- What happens to the rows of a column whose target changes, as it is written. -/
inductive Behaviour
  | cascade (word : String) (h : namesMatch word "CASCADE" = true)
  | restrict (word : String) (h : namesMatch word "RESTRICT" = true)
  | noAction (first second : String) (h : namesMatch first "NO" = true)
    (h' : namesMatch second "ACTION" = true)
  | setNull (first : String) (h : namesMatch first "SET" = true)
  | setDefault (first : String) (h : namesMatch first "SET" = true)

/-- The words of the behaviour. -/
def Behaviour.tokens : Behaviour → List Token
  | cascade word _ | restrict word _ => [.ident word]
  | noAction first second _ _ => [.ident first, .ident second]
  | setNull first _ => [.ident first, .keyword .null]
  | setDefault first _ => [.ident first, .keyword .default]

/-- What happens when the target of a reference is deleted or changed. -/
structure Action where
  event : String
  behaviour : Behaviour
  isEvent : namesMatch event "DELETE" = true ∨ namesMatch event "UPDATE" = true

namespace Action

/-- The tokens of the action. -/
def tokens (a : Action) : List Token :=
  .keyword .on :: .ident a.event :: a.behaviour.tokens

/-- Actions are written one behind the other. -/
def join (actions : List Action) : List Token :=
  actions.flatMap tokens

/-- Whether the last word of the action is DEFAULT. -/
def setsDefault (a : Action) : Bool :=
  match a.behaviour with
  | .setDefault _ _ => true
  | _ => false

end Action

/-- A word that is another one in some case does not make a column count. -/
lemma isCountingWord_of_match {w known : String} (h : namesMatch w known = true)
    (hknown : isCountingWord known = false) : isCountingWord w = false := by
  rw [← Bool.not_eq_true] at hknown ⊢
  intro hw
  refine hknown (Bool.or_eq_true_iff.mpr ?_)
  exact (Bool.or_eq_true_iff.mp hw).imp (namesMatch_trans (namesMatch_symm h))
    (namesMatch_trans (namesMatch_symm h))

/-- A word that has no meaning for options is passed over. -/
lemma readOptions_ident {w known : String} (h : namesMatch w known = true)
    (hknown : isCountingWord known = false) (r : List Token) :
    readOptions (.ident w :: r) = readOptions r := by
  refine readOptions_cons_of_none ?_
  rw [readOption, isCountingWord_of_match h hknown]
  rfl

/-- An action is passed over, except that the last word of SET DEFAULT begins a default. -/
lemma readOptions_action_append (a : Action) (rest : List Token) :
    readOptions (a.tokens ++ rest)
      = if a.setsDefault then .default (readDefault rest).1 :: readOptions (readDefault rest).2
        else readOptions rest := by
  obtain ⟨event, behaviour, hevent⟩ := a
  have hon : ∀ r, readOptions (.keyword .on :: .ident event :: r) = readOptions r := by
    intro r
    refine (readOptions_cons_of_none rfl).trans ?_
    rcases hevent with h | h
    · exact readOptions_ident h (by decide) r
    · exact readOptions_ident h (by decide) r
  refine (hon _).trans ?_
  cases behaviour with
  | cascade word h => exact readOptions_ident h (by decide) rest
  | restrict word h => exact readOptions_ident h (by decide) rest
  | noAction first second h h' =>
    exact (readOptions_ident h (by decide) _).trans (readOptions_ident h' (by decide) rest)
  | setNull first h =>
    exact (readOptions_ident h (by decide) _).trans (readOptions_cons_of_none rfl)
  | setDefault first h =>
    exact (readOptions_ident h (by decide) _).trans (readOptions_cons_of_some rfl)

/-! ### Defaults and counting -/

section Fields

variable {os : List ColumnOption} {c : ColumnDef}

/-- The last default among some options, or the one there was. -/
def lastDefault (os : List ColumnOption) (before : Option String) : Option String :=
  os.foldl (fun v o => match o with
    | .default v' => v'
    | _ => v) before

lemma defaultValue_foldl_apply (os : List ColumnOption) (c : ColumnDef) :
    (os.foldl ColumnOption.apply c).defaultValue = lastDefault os c.defaultValue := by
  induction os generalizing c with
  | nil => rfl
  | cons o os ih =>
    rw [List.foldl_cons, ih]
    cases o <;> rfl

lemma autoIncrement_foldl_apply :
    (os.foldl ColumnOption.apply c).autoIncrement = true
      ↔ c.autoIncrement = true ∨ .autoIncrement ∈ os := by
  induction os generalizing c with
  | nil => simp
  | cons o os ih =>
    rw [List.foldl_cons, ih, List.mem_cons]
    cases o <;> simp [ColumnOption.apply, ColumnDef.asPrimaryKey]

/-- A default in front counts until there is another one. -/
lemma foldl_apply_default (os : List ColumnOption) (c : ColumnDef) (v : Option String) :
    os.foldl ColumnOption.apply { c with defaultValue := v }
      = { os.foldl ColumnOption.apply c with defaultValue := lastDefault os v } := by
  induction os generalizing c v with
  | nil => rfl
  | cons o os ih =>
    have hfirst : o.apply { c with defaultValue := v }
        = { o.apply c with defaultValue := lastDefault [o] v } := by
      cases o <;> rfl
    rw [List.foldl_cons, List.foldl_cons, hfirst, ih]
    rfl

lemma foldl_apply_autoIncrement (os : List ColumnOption) (c : ColumnDef) :
    os.foldl ColumnOption.apply { c with autoIncrement := true }
      = { os.foldl ColumnOption.apply c with autoIncrement := true } := by
  induction os generalizing c with
  | nil => rfl
  | cons o os ih =>
    have hfirst : o.apply { c with autoIncrement := true }
        = { o.apply c with autoIncrement := true } := by
      cases o <;> rfl
    rw [List.foldl_cons, List.foldl_cons, hfirst, ih]

/-- A default is the one there was, or that of an option. -/
lemma mem_of_lastDefault {v : String} {before : Option String}
    (h : lastDefault os before = some v) : before = some v ∨ .default (some v) ∈ os := by
  induction os generalizing before with
  | nil => exact .inl h
  | cons o os ih =>
    rw [lastDefault, List.foldl_cons] at h
    rcases ih h with hfirst | hrest
    · cases o with
      | default v' =>
        obtain rfl : v' = some v := hfirst
        exact .inr List.mem_cons_self
      | _ => exact .inl hfirst
    · exact .inr (List.mem_cons_of_mem o hrest)

/-- Other options leave the default as it is. -/
lemma lastDefault_of_forall_ne (h : ∀ o ∈ os, ∀ v, o ≠ .default v) (before : Option String) :
    lastDefault os before = before := by
  induction os generalizing before with
  | nil => rfl
  | cons o os ih =>
    obtain ⟨ho, hos⟩ := List.forall_mem_cons.mp h
    rw [lastDefault, List.foldl_cons]
    cases o with
    | default v => exact absurd rfl (ho v)
    | _ => exact ih hos before

lemma lastDefault_append_default {os' : List ColumnOption} (h : ∀ o ∈ os', ∀ v, o ≠ .default v)
    (v before : Option String) : lastDefault (os ++ .default v :: os') before = v := by
  rw [lastDefault, List.foldl_append, List.foldl_cons]
  exact lastDefault_of_forall_ne h v

/-- What was the default before counts exactly if there is no other one. -/
lemma lastDefault_eq_iff {before before' : Option String} :
    lastDefault os before = lastDefault os before'
      ↔ (∃ v, .default v ∈ os) ∨ before = before' := by
  induction os generalizing before before' with
  | nil => simp [lastDefault]
  | cons o os ih =>
    rw [lastDefault, lastDefault, List.foldl_cons, List.foldl_cons]
    refine ih.trans ?_
    cases o <;> simp

end Fields

/-- Options under another default, of which one for counting may be gone, change a column in the
same way exactly if neither is missed. -/
lemma foldl_apply_default_eq_iff {kept : List ColumnOption} (hos : os = [] ∨ os = [.autoIncrement])
    (c : ColumnDef) (v : Option String) :
    kept.foldl ColumnOption.apply { c with defaultValue := v }
        = (os ++ kept).foldl ColumnOption.apply c
      ↔ ((∃ v', .default v' ∈ kept) ∨ c.defaultValue = v)
        ∧ (.autoIncrement ∈ os ++ kept → c.autoIncrement = true ∨ .autoIncrement ∈ kept) := by
  have hdefault := defaultValue_foldl_apply kept c
  rw [foldl_apply_default, List.foldl_append, or_congr_right eq_comm, ← lastDefault_eq_iff,
    ← hdefault, ← autoIncrement_foldl_apply]
  rcases hos with rfl | rfl
  · rw [List.nil_append, List.foldl_nil]
    constructor
    · intro heq
      exact ⟨congrArg ColumnDef.defaultValue heq, fun hcounts =>
        autoIncrement_foldl_apply.mpr (.inr hcounts)⟩
    · rintro ⟨heq, -⟩
      rw [heq]
  · rw [List.foldl_cons, List.foldl_nil, ColumnOption.apply, foldl_apply_autoIncrement]
    constructor
    · intro heq
      exact ⟨congrArg ColumnDef.defaultValue heq, fun _ => congrArg ColumnDef.autoIncrement heq⟩
    · rintro ⟨heq, hcounts⟩
      have hcounts := hcounts List.mem_cons_self
      rw [heq, ← hcounts]

/-! ### What is taken for a default -/

/-- The default that is read behind some actions, if the last one of them begins a default, and the
tokens that are left. -/
def behindActions (back : List Token) : List Action → Option String × List Token
  | [] => (none, back)
  | [a] => if a.setsDefault then readDefault back else (none, back)
  | _ :: b :: as => behindActions back (b :: as)

section Actions

variable {actions : List Action} {back : List Token}

lemma readOptions_actions_append (h : ∀ a ∈ actions, a.setsDefault = false) (back : List Token) :
    readOptions (Action.join actions ++ back) = readOptions back := by
  induction actions with
  | nil => rfl
  | cons a as ih =>
    obtain ⟨ha, has⟩ := List.forall_mem_cons.mp h
    rw [Action.join, List.flatMap_cons, List.append_assoc, readOptions_action_append, ha,
      if_neg Bool.false_ne_true]
    exact ih has

lemma behindActions_of_none (h : ∀ a ∈ actions, a.setsDefault = false) :
    behindActions back actions = (none, back) := by
  fun_induction behindActions back actions with
  | case1 => rfl
  | case2 a ha => exact Bool.noConfusion (ha.symm.trans (h a List.mem_cons_self))
  | case3 a ha => rfl
  | case4 a b as ih => exact ih fun c hc => h c (List.mem_cons_of_mem a hc)

/-- No default is read where another action begins. -/
lemma readDefault_actions_append (a : Action) (as : List Action) (back : List Token) :
    readDefault (Action.join (a :: as) ++ back) = (none, Action.join (a :: as) ++ back) :=
  rfl

/-- Actions of which one sets a default change it to what is read behind them. -/
lemma foldl_apply_actions_append (h : ∃ a ∈ actions, a.setsDefault = true) (c : ColumnDef) :
    (readOptions (Action.join actions ++ back)).foldl ColumnOption.apply c
      = (readOptions (behindActions back actions).2).foldl ColumnOption.apply
        { c with defaultValue := (behindActions back actions).1 } := by
  induction actions generalizing c with
  | nil =>
    obtain ⟨a, ha, -⟩ := h
    cases ha
  | cons a as ih =>
    have hread := readOptions_action_append a (Action.join as ++ back)
    rw [Action.join, List.flatMap_cons, List.append_assoc]
    refine (congrArg (List.foldl ColumnOption.apply c) hread).trans ?_
    by_cases ha : a.setsDefault = true
    · rw [if_pos ha]
      cases as with
      | nil =>
        rw [behindActions, if_pos ha]
        rfl
      | cons b bs =>
        rw [readDefault_actions_append, List.foldl_cons, behindActions]
        by_cases hlater : ∃ b' ∈ b :: bs, b'.setsDefault = true
        · exact ih hlater { c with defaultValue := none }
        · have hnone : ∀ b' ∈ b :: bs, b'.setsDefault = false := fun b' hb' =>
            Bool.eq_false_iff.mpr fun hdefault => hlater ⟨b', hb', hdefault⟩
          rw [readOptions_actions_append hnone, behindActions_of_none hnone]
          rfl
    · have hlater : ∃ b ∈ as, b.setsDefault = true := by
        obtain ⟨b, hb, hdefault⟩ := h
        rcases List.mem_cons.mp hb with rfl | hb
        · exact absurd hdefault ha
        · exact ⟨b, hb, hdefault⟩
      rw [if_neg ha, ih hlater]
      cases as with
      | nil =>
        obtain ⟨b, hb, -⟩ := hlater
        cases hb
      | cons b bs => rfl

/-- Parentheses in front of options are passed over. -/
lemma readOptions_dropParens (ts : List Token) : readOptions (dropParens ts) = readOptions ts := by
  cases ts with
  | nil => rfl
  | cons t r =>
    cases t with
    | lparen => exact (readOptions_cons_of_none rfl).symm
    | _ => rfl

/-- Behind a word, a default ends where the parentheses do, if there are any. -/
lemma snd_readDefault_ident (word : String) (r : List Token) :
    (readDefault (.ident word :: r)).2 = dropParens r := by
  cases r with
  | nil => rfl
  | cons t r =>
    cases t with
    | lparen => exact snd_parenText 0 false r
    | _ => rfl

lemma snd_readDefault_lparen (r : List Token) :
    (readDefault (.lparen :: r)).2 = dropParens (.lparen :: r) :=
  snd_parenText 0 false r

/-- What is taken for a default takes a word for counting away at most. -/
lemma readOptions_eq_readDefault (back : List Token) :
    ∃ os, readOptions back = os ++ readOptions (readDefault back).2
      ∧ (os = [] ∨ os = [.autoIncrement]) := by
  cases back with
  | nil => exact ⟨[], rfl, .inl rfl⟩
  | cons t r =>
    cases t with
    | ident word =>
      rw [snd_readDefault_ident]
      by_cases hcounts : isCountingWord word = true
      · refine ⟨[.autoIncrement], readOptions_cons_of_some ?_, .inr rfl⟩
        rw [readOption, if_pos hcounts]
      · refine ⟨[], ?_, .inl rfl⟩
        rw [readOptions_dropParens]
        refine readOptions_cons_of_none ?_
        rw [readOption, if_neg hcounts]
    | lparen =>
      rw [snd_readDefault_lparen, readOptions_dropParens]
      exact ⟨[], rfl, .inl rfl⟩
    | str | prefixed | num => exact ⟨[], readOptions_cons_of_none rfl, .inl rfl⟩
    | keyword k =>
      cases k with
      | null => exact ⟨[], readOptions_cons_of_none rfl, .inl rfl⟩
      | _ => exact ⟨[], rfl, .inl rfl⟩
    | _ => exact ⟨[], rfl, .inl rfl⟩

lemma readOptions_eq_behindActions (actions : List Action) (back : List Token) :
    ∃ os, readOptions back = os ++ readOptions (behindActions back actions).2
      ∧ (os = [] ∨ os = [.autoIncrement]) := by
  fun_induction behindActions back actions with
  | case1 => exact ⟨[], rfl, .inl rfl⟩
  | case2 a ha => exact readOptions_eq_readDefault back
  | case3 a ha => exact ⟨[], rfl, .inl rfl⟩
  | case4 a b as ih => exact ih

end Actions

/-! ### Columns -/

/-- The column keeps its default and its counting behind the actions: it has a default further
behind, or the one that is taken; and it counts up for another reason, if what is taken says so. -/
structure IsHarmless (c : ColumnDef) (actions : List Action) (back : List Token) : Prop where
  default : (∃ v, .default v ∈ readOptions (behindActions back actions).2)
    ∨ c.defaultValue = (behindActions back actions).1
  counting : .autoIncrement ∈ readOptions back →
    c.autoIncrement = true ∨ .autoIncrement ∈ readOptions (behindActions back actions).2

/-- The actions behind the reference of a column do not count exactly if none of them sets a
default, or if the default and the counting of the column are the same without them. -/
theorem readColumn?_actions_iff {front : List Token} {c : ColumnDef} (hfront : IsShut front)
    (hc : readColumn? front = some c) (t : TargetClause) (actions : List Action)
    (back : List Token) :
    readColumn? (front ++ .keyword .references :: (t.tokens ++ (Action.join actions ++ back)))
        = readColumn? (front ++ .keyword .references :: (t.tokens ++ back))
      ↔ (∀ a ∈ actions, a.setsDefault = false) ∨ IsHarmless c actions back := by
  have hread : ∀ r, readOptions (.keyword .references :: (t.tokens ++ r))
      = .references t.target :: readOptions r := by
    intro r
    rw [readOptions_references, t.readReference_tokens]
    rfl
  rw [readColumn?_append_references hfront, readColumn?_append_references hfront, hc, hread, hread,
    Option.map_some, Option.map_some, Option.some.injEq, List.foldl_cons, List.foldl_cons]
  by_cases hnone : ∀ a ∈ actions, a.setsDefault = false
  · rw [readOptions_actions_append hnone]
    exact ⟨fun _ => .inl hnone, fun _ => rfl⟩
  · have hsome : ∃ a ∈ actions, a.setsDefault = true := by
      by_contra hall
      exact hnone fun a ha => Bool.eq_false_iff.mpr fun hdefault => hall ⟨a, ha, hdefault⟩
    obtain ⟨os, hback, hos⟩ := readOptions_eq_behindActions actions back
    rw [foldl_apply_actions_append hsome, or_iff_right hnone]
    rw [hback, foldl_apply_default_eq_iff hos, ← hback]
    exact ⟨fun h => ⟨h.1, h.2⟩, fun h => ⟨h.default, h.counting⟩⟩

/-! ### A sample -/

/-- A column with options in front of its reference. -/
def sampleFrontTokens : List Token :=
  [.ident "a", .ident "int", .keyword .default, .num "1", .keyword .not, .keyword .null]

/-- Actions for both events. -/
def sampleActions : List Action :=
  [⟨"delete", .cascade "Cascade" (by decide), by decide⟩,
    ⟨"UPDATE", .setNull "set" (by decide), by decide⟩]

/-- The column reads the same with the actions and without them, as none of them sets a default. -/
theorem readColumn?_actions_iff_sample :
    sampleFrontTokens ++ .keyword .references :: ((TargetClause.mk ["app"] ⟨"u", "x"⟩).tokens
        ++ (Action.join sampleActions ++ [.keyword .unique]))
      = tokenize "a int default 1 not null references app.u (x)
        on delete Cascade on UPDATE set null unique"
      ∧ readColumn? sampleFrontTokens
        = some { name := "a", type := .int, nullable := false, defaultValue := some "1" }
      ∧ readColumn? (sampleFrontTokens ++ .keyword .references
          :: ((TargetClause.mk ["app"] ⟨"u", "x"⟩).tokens
            ++ (Action.join sampleActions ++ [.keyword .unique])))
        = readColumn? (sampleFrontTokens ++ .keyword .references
          :: ((TargetClause.mk ["app"] ⟨"u", "x"⟩).tokens ++ [.keyword .unique])) := by
  have hcolumn : readColumn? sampleFrontTokens
      = some { name := "a", type := .int, nullable := false, defaultValue := some "1" } := by
    decide +kernel
  exact ⟨by decide +kernel, hcolumn,
    (readColumn?_actions_iff (by decide) hcolumn _ sampleActions _).mpr (.inl (by decide))⟩

/-- The default of a column is lost behind an action that sets a default. -/
theorem tablesOf_setDefault :
    tablesOf (tokenize "create table t (a int default 1 references u (x) on delete set default);")
      ≠ tablesOf (tokenize "create table t (a int default 1 references u (x));") := by
  decide +kernel

end SchemaDesigner.Script
