/-
The order of options and the place of keys in the definition of a table do not matter.

* `BodyItem`: columns, keys of single columns and other things in a body;
* `claims`, `summary`: what a body says of each of its columns, inside of the column and outside;
* `tableOf?_items`: the columns of the table are those of the body, each under all that is said of
  it;
* `Rearranges`: options change their order, and keys change their place;
* `summary_eq_of_rearranges`, `tablesOf_rearranged`: what is said of the columns stays, and so does
  the table.
-/
import Mathlib.Data.Multiset.Basic
import Mathlib.Logic.Relation
import SchemaDesigner.Proofs.Script.Clause
import SchemaDesigner.Proofs.Script.Reexport

namespace SchemaDesigner.Script

/-! ### Options of a column -/

section Options

variable {os os' : List ColumnOption} {c : ColumnDef}

lemma primaryKey_foldl_apply :
    (os.foldl ColumnOption.apply c).primaryKey = true
      ↔ c.primaryKey = true ∨ .primaryKey ∈ os := by
  induction os generalizing c with
  | nil => simp
  | cons o os ih =>
    rw [List.foldl_cons, ih, List.mem_cons]
    cases o <;> simp [ColumnOption.apply, ColumnDef.asPrimaryKey]

/-- The options say one thing at most about the default, and one about the reference. -/
structure Agree (os : Multiset ColumnOption) : Prop where
  default : ∀ v v', .default v ∈ os → .default v' ∈ os → v = v'
  references : ∀ r r', .references r ∈ os → .references r' ∈ os → r = r'

/-- Whether the option is a default. -/
def ColumnOption.isDefault : ColumnOption → Bool
  | .default _ => true
  | _ => false

/-- Whether the option is a reference. -/
def ColumnOption.isReference : ColumnOption → Bool
  | .references _ => true
  | _ => false

lemma eq_of_mem_of_countP_le_one {p : ColumnOption → Bool} (h : os.countP p ≤ 1)
    {o o' : ColumnOption} (ho : o ∈ os) (hp : p o = true) (ho' : o' ∈ os) (hp' : p o' = true) :
    o = o' := by
  obtain ⟨i, hi⟩ := List.getElem?_of_mem ho
  obtain ⟨j, hj⟩ := List.getElem?_of_mem ho'
  obtain rfl := eq_of_countP_le_one h hi hj hp hp'
  exact Option.some.inj (hi.symm.trans hj)

/-- One default and one reference at most agree. -/
lemma agree_of_countP_le_one (hdefault : os.countP ColumnOption.isDefault ≤ 1)
    (href : os.countP ColumnOption.isReference ≤ 1) : Agree os where
  default _ _ hv hv' :=
    ColumnOption.default.inj (eq_of_mem_of_countP_le_one hdefault hv rfl hv' rfl)
  references _ _ hr hr' :=
    ColumnOption.references.inj (eq_of_mem_of_countP_le_one href hr rfl hr' rfl)

/-- Options that agree change a column in any order. -/
lemma apply_comm {o o' : ColumnOption}
    (hdefault : ∀ v v', o = .default v → o' = .default v' → v = v')
    (href : ∀ r r', o = .references r → o' = .references r' → r = r') (c : ColumnDef) :
    o'.apply (o.apply c) = o.apply (o'.apply c) := by
  cases o with
  | default v =>
    cases o' with
    | default v' => rw [hdefault v v' rfl rfl]
    | _ => rfl
  | references r =>
    cases o' with
    | references r' => rw [href r r' rfl rfl]
    | _ => rfl
  | _ => cases o' <;> rfl

lemma foldl_apply_eq_of_perm (h : os.Perm os') (hagree : Agree os) (c : ColumnDef) :
    os.foldl ColumnOption.apply c = os'.foldl ColumnOption.apply c := by
  refine h.foldl_eq' (fun o ho o' ho' c => ?_) c
  refine apply_comm (fun v v' hv hv' => ?_) (fun r r' hr hr' => ?_) c
  · exact hagree.default v v' (hv ▸ ho) (hv' ▸ ho')
  · exact hagree.references r r' (hr ▸ ho) (hr' ▸ ho')

end Options

/-! ### Keys of a table -/

/-- What some keys say of a column of the name. -/
def keyClaims (keys : List KeyClause) (name : String) : List ColumnOption :=
  (keys.filter fun k => namesMatch name k.column).map KeyClause.option

lemma keyClaims_cons (k : KeyClause) (keys : List KeyClause) (name : String) :
    keyClaims (k :: keys) name
      = (if namesMatch name k.column then [k.option] else []) ++ keyClaims keys name := by
  rw [keyClaims, List.filter_cons]
  split_ifs <;> rfl

/-- The column is a primary key already, or one of the keys makes it one. -/
def IsKeyed (keys : List KeyClause) (c : ColumnDef) : Prop :=
  c.primaryKey = true ∨ .primaryKey ∈ keyClaims keys c.name

/-- All primary keys of the columns and among the keys are on one column. -/
def HasOneKey (keys : List KeyClause) (cs : List ColumnDef) : Prop :=
  ∀ c ∈ cs, ∀ c' ∈ cs, IsKeyed keys c → IsKeyed keys c' → namesMatch c.name c'.name = true

section Keys

variable {cs : List ColumnDef} {k : KeyClause} {keys : List KeyClause}

/-- The columns under one key: those of its name have what it says as an option. -/
def underKey (k : KeyClause) (c : ColumnDef) : ColumnDef :=
  if namesMatch c.name k.column then k.option.apply c else c

lemma name_underKey (c : ColumnDef) : (underKey k c).name = c.name := by
  rw [underKey]
  split_ifs
  · cases k <;> rfl
  · rfl

lemma isKeyed_of_underKey {c : ColumnDef} (h : IsKeyed keys (underKey k c)) :
    IsKeyed (k :: keys) c := by
  rw [IsKeyed, name_underKey] at h
  rw [IsKeyed, keyClaims_cons, List.mem_append]
  rcases h with h | h
  · rw [underKey] at h
    split_ifs at h ⊢
    · have hkey : c.primaryKey = true ∨ .primaryKey ∈ [k.option] := primaryKey_foldl_apply.mp h
      exact hkey.imp_right .inl
    · exact .inl h
  · exact .inr (.inr h)

lemma HasOneKey.underKey (h : HasOneKey (k :: keys) cs) : HasOneKey keys (cs.map (underKey k)) := by
  intro c hc c' hc' hkeyed hkeyed'
  obtain ⟨d, hd, rfl⟩ := List.mem_map.mp hc
  obtain ⟨d', hd', rfl⟩ := List.mem_map.mp hc'
  rw [name_underKey, name_underKey]
  exact h d hd d' hd' (isKeyed_of_underKey hkeyed) (isKeyed_of_underKey hkeyed')

lemma isKeyed_of_match {column : String} {c : ColumnDef} (h : namesMatch c.name column = true) :
    IsKeyed (.primaryKey column :: keys) c := by
  rw [IsKeyed, keyClaims_cons, KeyClause.column, if_pos h]
  exact .inr List.mem_cons_self

/-- With one primary key, the other columns were none before one column becomes the only one. -/
lemma asSoleKey_eq_underKey {column : String} {c d : ColumnDef} {isKey : Bool}
    (hkey : HasOneKey (.primaryKey column :: keys) cs) (hc : c ∈ cs) (hd : d ∈ cs)
    (hcolumn : namesMatch d.name column = true)
    (hplace : isKey = true ↔ namesMatch c.name d.name = true) :
    c.asSoleKey isKey = underKey (.primaryKey column) c := by
  rw [ColumnDef.asSoleKey, underKey, KeyClause.column]
  by_cases hmatch : namesMatch c.name d.name = true
  · rw [if_pos (hplace.mpr hmatch), if_pos (namesMatch_trans hmatch hcolumn)]
    rfl
  · have hother : namesMatch c.name column ≠ true :=
      fun h => hmatch (namesMatch_trans h (namesMatch_symm hcolumn))
    have hplain : c.primaryKey = false := by
      rw [← Bool.not_eq_true]
      exact fun hprimary => hmatch (hkey c hc d hd (.inl hprimary) (isKeyed_of_match hcolumn))
    rw [if_neg fun h => hmatch (hplace.mp h), if_neg hother, ← hplain]

/-- With one primary key and distinct names, a key of a table changes the columns of its name. -/
lemma applyConstraint_eq_map (h : DistinctNames (cs.map fun c => c.name))
    (hkey : HasOneKey (k :: keys) cs) :
    applyConstraint cs k.constraint = cs.map (underKey k) := by
  cases k with
  | unique column => exact modifyNamed_eq_map h column _
  | foreignKey column t => exact modifyNamed_eq_map h column _
  | primaryKey column =>
    rw [KeyClause.constraint, applyConstraint]
    cases hfind : cs.findIdx? fun c => namesMatch c.name column with
    | none =>
      rw [List.findIdx?_eq_none_iff] at hfind
      refine ((List.map_congr_left fun c hc => ?_).trans (List.map_id' cs)).symm
      exact if_neg (Bool.not_eq_true _ ▸ hfind c hc)
    | some i =>
      obtain ⟨hlt, hi, -⟩ := List.findIdx?_eq_some_iff_getElem.mp hfind
      have hhere := List.getElem?_eq_getElem hlt
      refine List.ext_getElem? fun j => ?_
      rw [List.getElem?_map, List.getElem?_mapIdx]
      cases hj : cs[j]? with
      | none => rfl
      | some c =>
        refine congrArg some (asSoleKey_eq_underKey hkey (List.mem_of_getElem? hj)
          (List.getElem_mem hlt) hi ?_)
        rw [beq_iff_eq]
        constructor
        · rintro rfl
          rw [hhere] at hj
          rw [← Option.some.inj hj, namesMatch_refl]
        · intro hmatch
          refine h.eq_of_match ?_ ?_ hmatch
          · rw [List.getElem?_map, hj]
            rfl
          · rw [List.getElem?_map, hhere]
            rfl

/-- With one primary key and distinct names, each column has what the keys say of it. -/
lemma foldl_applyConstraint_keys (h : DistinctNames (cs.map fun c => c.name))
    (hkey : HasOneKey keys cs) :
    (keys.map KeyClause.constraint).foldl applyConstraint cs
      = cs.map fun c => (keyClaims keys c.name).foldl ColumnOption.apply c := by
  induction keys generalizing cs with
  | nil => exact (List.map_id' cs).symm
  | cons k keys ih =>
    have hnames : (cs.map (underKey k)).map (fun c => c.name) = cs.map fun c => c.name := by
      rw [List.map_map]
      exact List.map_congr_left fun c _ => name_underKey c
    rw [List.map_cons, List.foldl_cons, applyConstraint_eq_map h hkey,
      ih (hnames ▸ h) hkey.underKey, List.map_map]
    refine List.map_congr_left fun c _ => ?_
    rw [Function.comp_apply, name_underKey, keyClaims_cons, underKey]
    split_ifs <;> rfl

/-- With one primary key and distinct names, all primary keys inside of columns count. -/
lemma firstKeyOnly_eq_self_of_hasOneKey (h : DistinctNames (cs.map fun c => c.name))
    (hkey : HasOneKey keys cs) : firstKeyOnly false cs = cs := by
  refine firstKeyOnly_eq_self ?_
  rw [List.countP_eq_length_filter]
  have hdistinct : (cs.filter fun c => c.primaryKey).Pairwise
      fun c c' => namesMatch c.name c'.name = false :=
    (List.pairwise_map.mp h).filter _
  have hmatch : ∀ c ∈ cs.filter fun c => c.primaryKey, ∀ c' ∈ cs.filter fun c => c.primaryKey,
      namesMatch c.name c'.name = true := by
    intro c hc c' hc'
    rw [List.mem_filter] at hc hc'
    exact hkey c hc.1 c' hc'.1 (.inl hc.2) (.inl hc'.2)
  generalize (cs.filter fun c => c.primaryKey) = keyed at hdistinct hmatch
  match keyed with
  | [] | [_] => simp
  | c :: c' :: _ =>
    have hne := (List.pairwise_cons.mp hdistinct).1 c' List.mem_cons_self
    have heq := hmatch c List.mem_cons_self c' (List.mem_cons_of_mem c List.mem_cons_self)
    exact absurd (hne.symm.trans heq) Bool.false_ne_true

end Keys

/-! ### Bodies -/

/-- A part of a body: a column, a key of a single column, or something that is no element. -/
inductive BodyItem
  | column (c : ColumnClause)
  | key (k : KeyClause)
  | other (ts : List Token) (h : Element.ofTokens? ts = none)

namespace BodyItem

/-- The tokens of the part. -/
def tokens : BodyItem → List Token
  | column c => c.tokens
  | key k => k.tokens
  | other ts _ => ts

/-- The column that the part is. -/
def column? : BodyItem → Option ColumnClause
  | column c => some c
  | _ => none

/-- The key that the part is. -/
def key? : BodyItem → Option KeyClause
  | key k => some k
  | _ => none

end BodyItem

/-- The columns of a body. -/
def columnsIn (items : List BodyItem) : List ColumnClause :=
  items.filterMap BodyItem.column?

/-- The keys of a body that stand outside of the columns. -/
def keysIn (items : List BodyItem) : List KeyClause :=
  items.filterMap BodyItem.key?

/-- What is said of a column, in its own options and by the keys that name it. -/
def claims (keys : List KeyClause) (c : ColumnClause) : List ColumnOption :=
  c.options.map OptionClause.option ++ keyClaims keys c.name

/-- What a body says of each of its columns: the column without options, and all claims on it in
whichever order they stand. -/
def summary (items : List BodyItem) : List (ColumnDef × Multiset ColumnOption) :=
  (columnsIn items).map fun c => (c.bare, (claims (keysIn items) c : Multiset ColumnOption))

/-- The columns have different names, one thing at most is said of the default and of the reference
of each, and one of them at most is a primary key. -/
structure IsProper (items : List BodyItem) : Prop where
  distinct : DistinctNames ((summary items).map fun p => p.1.name)
  agree : ∀ p ∈ summary items, Agree p.2
  oneKey : ∀ p ∈ summary items, ∀ q ∈ summary items,
    .primaryKey ∈ p.2 → .primaryKey ∈ q.2 → namesMatch p.1.name q.1.name = true

section Table

variable {items items' : List BodyItem}

/-- The column as it is read alone. -/
def ColumnClause.alone (c : ColumnClause) : ColumnDef :=
  (c.options.map OptionClause.option).foldl ColumnOption.apply c.bare

/-- The column under all that is said of it. -/
def ColumnClause.under (keys : List KeyClause) (c : ColumnClause) : ColumnDef :=
  (claims keys c).foldl ColumnOption.apply c.bare

/-- The element that a part is read as. -/
def BodyItem.element? : BodyItem → Option Element
  | column c => some (.column c.alone)
  | key k => some (.constraint k.constraint)
  | other _ _ => none

lemma BodyItem.ofTokens?_tokens (item : BodyItem) :
    Element.ofTokens? item.tokens = item.element? := by
  cases item with
  | column c => exact c.ofTokens?_tokens
  | key k => exact k.ofTokens?_tokens
  | other ts h => exact h

lemma columnsOf_items (items : List BodyItem) :
    columnsOf ((items.map BodyItem.tokens).filterMap Element.ofTokens?)
      = keepFirst (fun a b => namesMatch a.name b.name)
        ((columnsIn items).map ColumnClause.alone) := by
  rw [columnsOf, columnsIn, List.filterMap_map, List.filterMap_filterMap, List.map_filterMap]
  refine congrArg _ (List.filterMap_congr fun item _ => ?_)
  rw [Function.comp_apply, item.ofTokens?_tokens]
  cases item <;> rfl

lemma constraintsOf_items (items : List BodyItem) :
    constraintsOf ((items.map BodyItem.tokens).filterMap Element.ofTokens?)
      = (keysIn items).map KeyClause.constraint := by
  rw [constraintsOf, keysIn, List.filterMap_map, List.filterMap_filterMap, List.map_filterMap]
  refine List.filterMap_congr fun item _ => ?_
  rw [Function.comp_apply, item.ofTokens?_tokens]
  cases item <;> rfl

lemma ColumnClause.name_alone (c : ColumnClause) : c.alone.name = c.name :=
  name_foldl_apply _ c.bare

lemma ColumnClause.isKeyed_alone {keys : List KeyClause} {c : ColumnClause}
    (h : IsKeyed keys c.alone) : .primaryKey ∈ claims keys c := by
  rw [IsKeyed, c.name_alone, ColumnClause.alone, primaryKey_foldl_apply] at h
  rw [claims, List.mem_append]
  exact h.imp_left fun h => h.resolve_left Bool.false_ne_true

/-- A table with some columns, if there are any. -/
def tableWith? (name : String) : List ColumnDef → Option TableDef
  | [] => none
  | columns => some ⟨name, columns⟩

lemma tableOf?_eq_tableWith? (name : String) (es : List Element) :
    tableOf? name es = tableWith? name
      ((constraintsOf es).foldl applyConstraint (firstKeyOnly false (columnsOf es))) :=
  rfl

/-- The columns of a proper body, each under all that is said of it. -/
theorem tableOf?_items (h : IsProper items) (name : String) :
    tableOf? name ((items.map BodyItem.tokens).filterMap Element.ofTokens?)
      = tableWith? name ((columnsIn items).map (ColumnClause.under (keysIn items))) := by
  have hnames : ((columnsIn items).map ColumnClause.alone).map (fun c => c.name)
      = (summary items).map fun p => p.1.name := by
    rw [summary, List.map_map, List.map_map]
    exact List.map_congr_left fun c _ => c.name_alone
  have hdistinct : DistinctNames (((columnsIn items).map ColumnClause.alone).map
      fun c => c.name) := hnames ▸ h.distinct
  have hkey : HasOneKey (keysIn items) ((columnsIn items).map ColumnClause.alone) := by
    intro c hc c' hc' hkeyed hkeyed'
    obtain ⟨d, hd, rfl⟩ := List.mem_map.mp hc
    obtain ⟨d', hd', rfl⟩ := List.mem_map.mp hc'
    rw [d.name_alone, d'.name_alone]
    exact h.oneKey _ (List.mem_map_of_mem hd) _ (List.mem_map_of_mem hd')
      (ColumnClause.isKeyed_alone hkeyed) (ColumnClause.isKeyed_alone hkeyed')
  have hunder : ((columnsIn items).map ColumnClause.alone).map
      (fun c => (keyClaims (keysIn items) c.name).foldl ColumnOption.apply c)
      = (columnsIn items).map (ColumnClause.under (keysIn items)) := by
    rw [List.map_map]
    refine List.map_congr_left fun c _ => ?_
    rw [Function.comp_apply, c.name_alone, ColumnClause.under, claims, List.foldl_append]
    rfl
  have hkept : keepFirst (fun a b => namesMatch a.name b.name)
      ((columnsIn items).map ColumnClause.alone) = (columnsIn items).map ColumnClause.alone :=
    keepFirst_eq_self (List.pairwise_map.mp hdistinct)
  rw [tableOf?_eq_tableWith?, columnsOf_items, constraintsOf_items, hkept,
    firstKeyOnly_eq_self_of_hasOneKey hdistinct hkey, foldl_applyConstraint_keys hdistinct hkey,
    hunder]

/-- Columns of which the same is said are the same under it. -/
lemma map_under_eq {cs cs' : List ColumnClause} {keys keys' : List KeyClause}
    (h : cs'.map (fun c => (c.bare, (claims keys' c : Multiset ColumnOption)))
      = cs.map fun c => (c.bare, (claims keys c : Multiset ColumnOption)))
    (hagree : ∀ c ∈ cs, Agree (claims keys c : Multiset ColumnOption)) :
    cs'.map (ColumnClause.under keys') = cs.map (ColumnClause.under keys) := by
  induction cs generalizing cs' with
  | nil =>
    rw [List.map_eq_nil_iff.mp h]
    rfl
  | cons c cs ih =>
    obtain ⟨c', cs', rfl, hhead, htail⟩ := List.map_eq_cons_iff.mp h
    obtain ⟨hbare, hclaims⟩ := Prod.mk.inj hhead
    have hhere : c.under keys = c'.under keys' := by
      rw [ColumnClause.under, ColumnClause.under, hbare]
      exact foldl_apply_eq_of_perm (Multiset.coe_eq_coe.mp hclaims).symm
        (hagree c List.mem_cons_self) c.bare
    rw [List.map_cons, List.map_cons, hhere,
      ih htail fun d hd => hagree d (List.mem_cons_of_mem c hd)]

/-- What is said of the columns makes the table, in whichever order it is said. -/
lemma tableOf?_eq_of_summary_eq (h : IsProper items) (hsummary : summary items' = summary items)
    (name : String) :
    tableOf? name ((items'.map BodyItem.tokens).filterMap Element.ofTokens?)
      = tableOf? name ((items.map BodyItem.tokens).filterMap Element.ofTokens?) := by
  have hproper : IsProper items' :=
    ⟨hsummary ▸ h.distinct, hsummary ▸ h.agree, hsummary ▸ h.oneKey⟩
  have hcolumns : (columnsIn items').map (ColumnClause.under (keysIn items'))
      = (columnsIn items).map (ColumnClause.under (keysIn items)) :=
    map_under_eq hsummary fun c hc => h.agree _ (List.mem_map_of_mem hc)
  rw [tableOf?_items hproper, tableOf?_items h, hcolumns]

end Table

/-! ### Rearrangements -/

/-- The key of the table that stands for an option of a column. -/
def OptionClause.lifted? (column : String) : OptionClause → Option KeyClause
  | .primaryKey => some (.primaryKey column)
  | .unique _ => some (.unique column)
  | .references t => some (.foreignKey column t)
  | _ => none

/-- A body is rearranged: the options of a column are put in another order, an option of a column
is written as a key of the table, anywhere in the body, or a key of the table is put elsewhere. -/
inductive Rearranges : List BodyItem → List BodyItem → Prop
  | permute {a b : List BodyItem} {c : ColumnClause} {options : List OptionClause}
    (h : c.options.Perm options) :
    Rearranges (a ++ .column c :: b) (a ++ .column { c with options := options } :: b)
  | lift {a b a' b' : List BodyItem} {c : ColumnClause} {o : OptionClause}
    {front back : List OptionClause} {k : KeyClause} (hoptions : c.options = front ++ o :: back)
    (hkey : o.lifted? k.column = some k) (hname : namesMatch c.name k.column = true)
    (hplace : a' ++ b' = a ++ .column { c with options := front ++ back } :: b) :
    Rearranges (a ++ .column c :: b) (a' ++ .key k :: b')
  | move {a b a' b' : List BodyItem} {k : KeyClause} (hplace : a' ++ b' = a ++ b) :
    Rearranges (a ++ .key k :: b) (a' ++ .key k :: b')

lemma OptionClause.of_lifted? {o : OptionClause} {column : String} {k : KeyClause}
    (h : o.lifted? column = some k) : k.option = o.option := by
  cases o with
  | primaryKey | unique | references =>
    obtain rfl := Option.some.inj h
    rfl
  | notNull | default | autoIncrement | counter => cases h

section Rearranges

variable {a b a' b' : List BodyItem} {c : ColumnClause} {k : KeyClause}

@[simp]
lemma columnsIn_column : columnsIn (a ++ .column c :: b) = columnsIn a ++ c :: columnsIn b := by
  rw [columnsIn, List.filterMap_append]
  rfl

@[simp]
lemma keysIn_column : keysIn (a ++ .column c :: b) = keysIn (a ++ b) := by
  rw [keysIn, keysIn, List.filterMap_append, List.filterMap_append]
  rfl

@[simp]
lemma columnsIn_key : columnsIn (a ++ .key k :: b) = columnsIn (a ++ b) := by
  rw [columnsIn, columnsIn, List.filterMap_append, List.filterMap_append]
  rfl

/-- The place of a key among the others does not count. -/
lemma keysIn_key_perm : (keysIn (a ++ .key k :: b)).Perm (k :: keysIn (a ++ b)) := by
  rw [keysIn, keysIn, List.filterMap_append, List.filterMap_append]
  exact List.perm_middle

lemma claims_perm {keys keys' : List KeyClause} (h : keys.Perm keys') (c : ColumnClause) :
    (claims keys c : Multiset ColumnOption) = claims keys' c := by
  rw [Multiset.coe_eq_coe, claims, claims]
  exact ((h.filter _).map _).append_left _

/-- A key of another column says nothing. -/
lemma claims_cons_of_ne {keys : List KeyClause} (h : namesMatch c.name k.column ≠ true) :
    claims (k :: keys) c = claims keys c := by
  rw [claims, claims, keyClaims_cons, if_neg h, List.nil_append]

/-- An option says the same as the key that stands for it. -/
lemma claims_lift {o : OptionClause} {front back : List OptionClause} {keys : List KeyClause}
    (hoptions : c.options = front ++ o :: back) (hkey : k.option = o.option)
    (hname : namesMatch c.name k.column = true) :
    (claims (k :: keys) { c with options := front ++ back }).Perm (claims keys c) := by
  have hmiddle : (front ++ o :: back).Perm (o :: (front ++ back)) := List.perm_middle
  have hown : ((front ++ back).map OptionClause.option ++ [k.option]).Perm
      (c.options.map OptionClause.option) := by
    rw [hoptions, hkey]
    exact (List.perm_append_singleton _ _).trans (hmiddle.map OptionClause.option).symm
  have hsplit : claims (k :: keys) { c with options := front ++ back }
      = ((front ++ back).map OptionClause.option ++ [k.option]) ++ keyClaims keys c.name := by
    rw [claims, keyClaims_cons, if_pos hname, List.append_assoc]
  rw [hsplit]
  exact hown.append_right _

lemma summary_perm {keys keys' : List KeyClause} (h : keys.Perm keys') (cs : List ColumnClause) :
    cs.map (fun c => (c.bare, (claims keys c : Multiset ColumnOption)))
      = cs.map fun c => (c.bare, (claims keys' c : Multiset ColumnOption)) :=
  List.map_congr_left fun c _ => congrArg (Prod.mk c.bare) (claims_perm h c)

/-- Of columns with different names, a name that matches one matches no other. -/
lemma not_match_of_distinct
    (h : DistinctNames ((summary (a ++ .column c :: b)).map fun p => p.1.name))
    (hname : namesMatch c.name k.column = true) :
    ∀ d ∈ columnsIn a ++ columnsIn b, namesMatch d.name k.column ≠ true := by
  intro d hd hmatch
  rw [summary, List.map_map, columnsIn_column] at h
  have hsymm : ∀ {c d : ColumnClause}, namesMatch c.name d.name = false →
      namesMatch d.name c.name = false := by
    intro c d hcd
    rw [← Bool.not_eq_true] at hcd ⊢
    exact fun hdc => hcd (namesMatch_symm hdc)
  have hpairs := (List.pairwise_middle hsymm).mp (List.pairwise_map.mp h)
  have hne := (List.pairwise_cons.mp hpairs).1 d hd
  exact absurd ((namesMatch_trans hname (namesMatch_symm hmatch)).symm.trans hne)
    Bool.false_ne_true.symm

end Rearranges

/-- What is said of the columns stays. -/
lemma summary_eq_of_rearranges {items items' : List BodyItem}
    (hdistinct : DistinctNames ((summary items).map fun p => p.1.name))
    (h : Rearranges items items') : summary items' = summary items := by
  cases h with
  | @permute a b c options hperm =>
    have hclaims : (claims (keysIn (a ++ b)) { c with options := options } : Multiset ColumnOption)
        = claims (keysIn (a ++ b)) c :=
      Multiset.coe_eq_coe.mpr ((hperm.symm.map _).append_right _)
    rw [summary, summary, columnsIn_column, columnsIn_column, keysIn_column, keysIn_column,
      List.map_append, List.map_append, List.map_cons, List.map_cons, hclaims]
    rfl
  | @lift a b a' b' c o front back k hoptions hkey hname hplace =>
    have hkeys : (keysIn (a' ++ .key k :: b')).Perm (k :: keysIn (a ++ b)) := by
      have hothers := keysIn_key_perm (a := a') (b := b') (k := k)
      rwa [hplace, keysIn_column] at hothers
    have hlifted : (claims (k :: keysIn (a ++ b)) { c with options := front ++ back }
        : Multiset ColumnOption) = claims (keysIn (a ++ b)) c :=
      Multiset.coe_eq_coe.mpr (claims_lift hoptions (OptionClause.of_lifted? hkey) hname)
    have hother : ∀ d ∈ columnsIn a ++ columnsIn b,
        (d.bare, (claims (k :: keysIn (a ++ b)) d : Multiset ColumnOption))
          = (d.bare, (claims (keysIn (a ++ b)) d : Multiset ColumnOption)) := fun d hd => by
      rw [claims_cons_of_ne (not_match_of_distinct hdistinct hname d hd)]
    have hfront := List.map_congr_left fun d hd => hother d (List.mem_append_left _ hd)
    have hback := List.map_congr_left fun d hd => hother d (List.mem_append_right _ hd)
    rw [summary, summary, columnsIn_key, hplace, columnsIn_column, columnsIn_column, keysIn_column,
      summary_perm hkeys, List.map_append, List.map_append, List.map_cons, List.map_cons, hfront,
      hback, hlifted]
    rfl
  | @move a b a' b' k hplace =>
    have hkeys : (keysIn (a' ++ .key k :: b')).Perm (keysIn (a ++ .key k :: b)) :=
      (hplace ▸ keysIn_key_perm).trans keysIn_key_perm.symm
    rw [summary, summary, columnsIn_key, columnsIn_key, hplace]
    exact summary_perm hkeys _

open Relation (ReflTransGen)

lemma summary_eq_of_reflTransGen {items items' : List BodyItem}
    (hdistinct : DistinctNames ((summary items).map fun p => p.1.name))
    (h : ReflTransGen Rearranges items items') : summary items' = summary items := by
  induction h with
  | refl => rfl
  | tail _ hstep ih => exact (summary_eq_of_rearranges (ih ▸ hdistinct) hstep).trans ih

/-- Whatever the order of the options, and wherever the keys of single columns stand, a statement
defines the same table: the columns in their order, each under all that is said of it. -/
theorem tablesOf_rearranged {s : Statement} {body : Group} {items items' : List BodyItem}
    (hparts : s.body.parts = items.map BodyItem.tokens)
    (hbody : body.parts = items'.map BodyItem.tokens) (hproper : IsProper items)
    (h : ReflTransGen Rearranges items items') :
    tablesOf { s with body := body }.tokens = tablesOf s.tokens
      ∧ (columnsIn items ≠ [] → tablesOf s.tokens
        = [⟨s.name, (columnsIn items).map (ColumnClause.under (keysIn items))⟩]) := by
  have hsummary := summary_eq_of_reflTransGen hproper.distinct h
  have htable := tableOf?_eq_of_summary_eq hproper hsummary s.name
  have hitems := tableOf?_items hproper s.name
  rw [Statement.tablesOf_tokens, Statement.tablesOf_tokens, Statement.table?, Statement.table?,
    hbody, hparts]
  refine ⟨congrArg Option.toList htable, fun hne => ?_⟩
  rw [hitems]
  cases hcolumns : columnsIn items with
  | nil => exact absurd hcolumns hne
  | cons c cs => rfl

/-! ### A sample -/

/-- A primary key that counts up. -/
def sampleKeyColumn : ColumnClause where
  name := "a"
  type := .word "int"
  size := none
  options := [.counter "identity" (some ⟨[.num "1"], [[.num "1"]], by decide⟩) (by decide),
    .primaryKey]

/-- The target of a reference, with a qualifier. -/
def sampleTarget : TargetClause :=
  ⟨["d"], ⟨"u", "x"⟩⟩

/-- A column with options of its own. -/
def sampleColumn (options : List OptionClause) : ColumnClause where
  name := "b"
  type := .word "varchar"
  size := some ⟨[.num "9"], [], by decide⟩
  options := options

/-- The default of the column. -/
def sampleDefault : OptionClause :=
  .default (.literal "m")

/-- Two columns with all that is said of them inside. -/
def sampleItems : List BodyItem :=
  [.column sampleKeyColumn,
    .column (sampleColumn [sampleDefault, .notNull, .unique false, .references sampleTarget])]

/-- The same with the options in another order and the keys outside, one of them in front. -/
def sampleRearranged : List BodyItem :=
  [.key (.foreignKey "B" sampleTarget),
    .column { sampleKeyColumn with options := sampleKeyColumn.options.take 1 },
    .key (.primaryKey "A"),
    .column (sampleColumn [.unique false, sampleDefault, .notNull])]

/-- The statement of the sample. -/
def sampleStatement : Statement :=
  .plain "t" ⟨sampleKeyColumn.tokens, [(sampleColumn [sampleDefault, .notNull, .unique false,
    .references sampleTarget]).tokens], by decide⟩

/-- The rearranged body. -/
def sampleBody : Group where
  first := (BodyItem.key (.foreignKey "B" sampleTarget)).tokens
  others := (sampleRearranged.map BodyItem.tokens).tail
  isPart := by decide

/-- Each column has one default and one reference at most, and there is one key. -/
lemma isProper_sampleItems : IsProper sampleItems where
  distinct := by decide
  agree := by
    have hcount : ∀ c ∈ columnsIn sampleItems,
        (claims (keysIn sampleItems) c).countP ColumnOption.isDefault ≤ 1
          ∧ (claims (keysIn sampleItems) c).countP ColumnOption.isReference ≤ 1 := by
      decide
    exact List.forall_mem_map.mpr fun c hc =>
      agree_of_countP_le_one (hcount c hc).1 (hcount c hc).2
  oneKey := by decide

/-- The options of the second column are permuted, then its reference moves outside, and then the
key of the first one, behind which it comes. -/
lemma rearranges_sample : ReflTransGen Rearranges sampleItems sampleRearranged := by
  have hperm : List.Perm
      ([sampleDefault, .notNull] ++ .unique false :: [OptionClause.references sampleTarget])
      (.unique false :: ([sampleDefault, .notNull] ++ [.references sampleTarget])) :=
    List.perm_middle
  have hoptions := @Rearranges.permute [.column sampleKeyColumn] []
    (sampleColumn [sampleDefault, .notNull, .unique false, .references sampleTarget])
    [.unique false, sampleDefault, .notNull, .references sampleTarget] hperm
  have hreference := @Rearranges.lift [.column sampleKeyColumn] [] [] _
    (sampleColumn [.unique false, sampleDefault, .notNull, .references sampleTarget])
    (.references sampleTarget) [.unique false, sampleDefault, .notNull] []
    (.foreignKey "B" sampleTarget) rfl rfl (by decide) rfl
  have hprimary := @Rearranges.lift [.key (.foreignKey "B" sampleTarget)]
    [.column (sampleColumn [.unique false, sampleDefault, .notNull])]
    [.key (.foreignKey "B" sampleTarget),
      .column { sampleKeyColumn with options := sampleKeyColumn.options.take 1 }] _
    sampleKeyColumn .primaryKey (sampleKeyColumn.options.take 1) [] (.primaryKey "A") rfl rfl
    (by decide) rfl
  exact ((ReflTransGen.single hoptions).tail hreference).tail hprimary

/-- Both statements are those of the texts, and they define the same table of two columns. -/
theorem tablesOf_rearranged_sample :
    sampleStatement.tokens = tokenize "create table t (a int identity(1,1) primary key,
b varchar(9) default 'm' not null unique references d.u(x));"
      ∧ { sampleStatement with body := sampleBody }.tokens
        = tokenize "create table t (foreign key (B) references d.u(x), a int identity(1,1),
primary key (A), b varchar(9) unique default 'm' not null);"
      ∧ tablesOf { sampleStatement with body := sampleBody }.tokens
        = tablesOf sampleStatement.tokens
      ∧ (tablesOf sampleStatement.tokens).map (fun t => t.columns.length) = [2] := by
  obtain ⟨hsame, htables⟩ := @tablesOf_rearranged sampleStatement sampleBody _ _ rfl rfl
    isProper_sampleItems rearranges_sample
  refine ⟨by decide +kernel, by decide +kernel, hsame, ?_⟩
  rw [htables (by decide)]
  rfl

end SchemaDesigner.Script
