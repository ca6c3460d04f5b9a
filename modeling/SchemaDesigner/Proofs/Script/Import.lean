/-
Tables as they come from a script, before and after they get identities.

* `keepFirst_append`: what is kept of two lists in a row;
* `TableDef.WellFormed`: columns, with distinct names and one primary key at most;
* `exists_parts_of_readCreate`, `forall_mem_definitions`: a table is made up of parts of its script;
* `tableOf?_wellFormed`, `wellFormed_of_mem_parse`: whatever a script holds, its tables are well
  formed;
* `distinct_parse`: no two of them have matching names;
* `Table.toDef`, `ofDefs_spec`: identities and places leave the definitions as they are.
-/
import SchemaDesigner.IdSupply
import SchemaDesigner.Proofs.List
import SchemaDesigner.Proofs.Script.Elements
import SchemaDesigner.Proofs.Script.Endings

namespace SchemaDesigner

/-- There are columns, their names are distinct, and one at most is the primary key. -/
structure TableDef.WellFormed (t : TableDef) : Prop where
  nonempty : t.columns ≠ []
  distinct : DistinctNames (t.columns.map fun c => c.name)
  oneKey : t.columns.countP (fun c => c.primaryKey) ≤ 1

namespace Script

/-! ### The first of each kind -/

section KeepFirst

variable {α : Type} {same : α → α → Bool} {l : List α}

/-- What holds of the elements kept so far, and of an element that is like none of them, holds of
the list in the end. -/
lemma keepFirst_induction {P : List α → Prop} (hnil : P [])
    (hsnoc : ∀ kept a, a ∈ l → P kept → kept.any (same · a) = false → P (kept ++ [a])) :
    P (keepFirst same l) := by
  rw [keepFirst]
  refine List.foldlRecOn l _ hnil fun kept hkept a ha => ?_
  cases hany : kept.any (same · a) with
  | true => exact hkept
  | false => exact hsnoc kept a ha hkept hany

lemma pairwise_keepFirst (same : α → α → Bool) (l : List α) :
    (keepFirst same l).Pairwise fun a b => same a b = false := by
  refine keepFirst_induction (P := fun kept => kept.Pairwise fun a b => same a b = false) .nil
    fun kept a _ hkept hany => ?_
  refine List.pairwise_append.mpr ⟨hkept, List.pairwise_singleton _ _, fun b hb c hc => ?_⟩
  rw [List.mem_singleton.mp hc]
  exact Bool.of_not_eq_true (List.any_eq_false.mp hany b hb)

lemma mem_of_mem_keepFirst : ∀ a ∈ keepFirst same l, a ∈ l := by
  refine keepFirst_induction (P := fun kept => ∀ a ∈ kept, a ∈ l)
    (fun a ha => absurd ha List.not_mem_nil) fun kept a ha hkept _ b hb => ?_
  rcases List.mem_append.mp hb with hb | hb
  · exact hkept b hb
  · rwa [List.mem_singleton.mp hb]

lemma keepFirst_concat (same : α → α → Bool) (l : List α) (a : α) : keepFirst same (l ++ [a])
    = if (keepFirst same l).any (same · a) then keepFirst same l else keepFirst same l ++ [a] := by
  rw [keepFirst, List.foldl_append]
  rfl

/-- Of two lists in a row, what is kept of the second one is kept if nothing kept of the first one
is the same. -/
lemma keepFirst_append
    (htrans : ∀ {a b c}, same a b = true → same b c = true → same a c = true) (l l' : List α) :
    keepFirst same (l ++ l')
      = keepFirst same l
        ++ (keepFirst same l').filter fun a => !(keepFirst same l).any (same · a) := by
  induction l' using List.reverseRecOn with
  | nil =>
    rw [List.append_nil]
    exact (List.append_nil _).symm
  | append_singleton l' a ih =>
    rw [← List.append_assoc, keepFirst_concat, keepFirst_concat, ih, List.any_append]
    cases hfirst : (keepFirst same l).any (same · a) with
    | true =>
      rw [Bool.true_or, if_pos rfl]
      split_ifs
      · rfl
      · rw [List.filter_append, List.filter_singleton, hfirst]
        exact congrArg _ (List.append_nil _).symm
    | false =>
      -- an element that is the same as `a` is the same as none in front, or `a` would be, too
      have hany : ((keepFirst same l').filter fun b => !(keepFirst same l).any (same · b)).any
          (same · a) = (keepFirst same l').any (same · a) := by
        rw [List.any_filter]
        refine List.any_congr rfl fun b => ?_
        cases hb : same b a with
        | false => rw [Bool.and_false]
        | true =>
          rw [Bool.and_true, Bool.not_eq_true', List.any_eq_false]
          intro c hc hcb
          exact List.any_eq_false.mp hfirst c hc (htrans hcb hb)
      rw [Bool.false_or, hany]
      split_ifs
      · rfl
      · rw [List.filter_append, List.filter_singleton, hfirst, List.append_assoc]
        rfl

/-- The first element of its kind is kept. -/
lemma mem_keepFirst_of_first
    (htrans : ∀ {a b c}, same a b = true → same b c = true → same a c = true) {a : α}
    (h : ∀ b ∈ l, same b a = false) (l' : List α) : a ∈ keepFirst same (l ++ a :: l') := by
  rw [keepFirst_append @htrans, ← List.singleton_append, keepFirst_append @htrans]
  refine List.mem_append_right _ (List.mem_filter.mpr ⟨List.mem_append_left _ ?_, ?_⟩)
  · exact List.mem_singleton_self a
  · rw [Bool.not_eq_true', List.any_eq_false]
    intro b hb
    simp [h b (mem_of_mem_keepFirst b hb)]

end KeepFirst

/-! ### From elements to a table -/

lemma distinct_columnsOf (es : List Element) :
    DistinctNames ((columnsOf es).map fun c => c.name) :=
  List.pairwise_map.mpr (pairwise_keepFirst _ _)

lemma countP_firstKeyOnly (seen : Bool) (cs : List ColumnDef) :
    (firstKeyOnly seen cs).countP (fun c => c.primaryKey) ≤ if seen then 0 else 1 := by
  induction cs generalizing seen with
  | nil => exact Nat.zero_le _
  | cons c cs ih =>
    rw [firstKeyOnly]
    cases hkey : c.primaryKey with
    | true =>
      have hrest : (firstKeyOnly true cs).countP (fun c => c.primaryKey) = 0 :=
        Nat.le_zero.mp (ih true)
      rw [if_pos rfl, List.countP_cons, hrest]
      cases seen with
      | true => exact Nat.le_refl 0
      | false => exact Nat.le_refl 1
    | false =>
      rw [if_neg Bool.false_ne_true, List.countP_cons, hkey, if_neg Bool.false_ne_true]
      exact ih seen

lemma map_modifyNamed_of_eq {β : Type} {g : ColumnDef → β} {name : String}
    {f : ColumnDef → ColumnDef} (hf : ∀ c, g (f c) = g c) (cs : List ColumnDef) :
    (modifyNamed name f cs).map g = cs.map g := by
  rw [modifyNamed]
  split
  · exact map_modify_of_eq hf
  · rfl

lemma countP_modifyNamed {name : String} {f : ColumnDef → ColumnDef}
    (hf : ∀ c, (f c).primaryKey = c.primaryKey) (cs : List ColumnDef) :
    (modifyNamed name f cs).countP (fun c => c.primaryKey)
      = cs.countP fun c => c.primaryKey := by
  rw [modifyNamed]
  split
  · exact countP_modify_of_eq hf
  · rfl

/-- What does not depend on keys and references is kept of the columns under a constraint. -/
lemma map_applyConstraint_of_eq {β : Type} {g : ColumnDef → β}
    (hsole : ∀ c b, g (c.asSoleKey b) = g c) (hunique : ∀ c, g { c with unique := true } = g c)
    (href : ∀ c r, g { c with reference := some r } = g c) (cs : List ColumnDef)
    (k : Constraint) : (applyConstraint cs k).map g = cs.map g := by
  cases k with
  | primaryKey name =>
    rw [applyConstraint]
    split
    · rename_i i hi
      refine List.ext_getElem? fun j => ?_
      simp only [List.getElem?_map, List.getElem?_mapIdx, Option.map_map]
      congr 1
      funext c
      exact hsole c (j == i)
    · rfl
  | unique name => exact map_modifyNamed_of_eq hunique cs
  | foreignKey name r => exact map_modifyNamed_of_eq (fun c => href c r) cs

/-- A constraint keeps the names, and one primary key at most. -/
lemma names_applyConstraint (cs : List ColumnDef) (k : Constraint) :
    (applyConstraint cs k).map (fun c => c.name) = cs.map fun c => c.name :=
  map_applyConstraint_of_eq (fun _ b => by cases b <;> rfl) (fun _ => rfl) (fun _ _ => rfl) cs k

lemma countP_applyConstraint {cs : List ColumnDef} (k : Constraint)
    (h : cs.countP (fun c => c.primaryKey) ≤ 1) :
    (applyConstraint cs k).countP (fun c => c.primaryKey) ≤ 1 := by
  cases k with
  | primaryKey name =>
    rw [applyConstraint]
    split
    · rename_i i hi
      refine countP_mapIdx_le_one (j := i) (fun j c hj => ?_) cs
      rw [beq_false_of_ne hj]
      rfl
    · exact h
  | unique name =>
    exact (countP_modifyNamed (f := fun c => { c with unique := true }) (fun _ => rfl)
      cs).trans_le h
  | foreignKey name r =>
    exact (countP_modifyNamed (f := fun c => { c with reference := some r }) (fun _ => rfl)
      cs).trans_le h

/-- The elements of a definition make up a well formed table, if they make up one. -/
lemma tableOf?_wellFormed {name : String} {es : List Element} {t : TableDef}
    (h : tableOf? name es = some t) : t.WellFormed := by
  have hall : DistinctNames (((constraintsOf es).foldl applyConstraint
        (firstKeyOnly false (columnsOf es))).map fun c => c.name)
      ∧ ((constraintsOf es).foldl applyConstraint
        (firstKeyOnly false (columnsOf es))).countP (fun c => c.primaryKey) ≤ 1 := by
    refine List.foldlRecOn (motive := fun cs : List ColumnDef =>
      DistinctNames (cs.map fun c => c.name) ∧ cs.countP (fun c => c.primaryKey) ≤ 1)
      _ _ ⟨?_, ?_⟩ fun cs hcs k _ => ⟨?_, ?_⟩
    · rw [names_firstKeyOnly]
      exact distinct_columnsOf es
    · exact countP_firstKeyOnly false _
    · rw [names_applyConstraint]
      exact hcs.1
    · exact countP_applyConstraint k hcs.2
  rw [tableOf?] at h
  split at h
  · cases h
  · rename_i columns hne
    obtain rfl := Option.some.inj h
    exact ⟨fun hnil => hne hnil, hall.1, hall.2⟩

/-! ### From a script to tables -/

/-- The parts of a body have tokens of the script that it stands in. -/
lemma subset_of_mem_splitBody {ts body : List Token} {parts : List (List Token)}
    (hbody : .lparen :: body <:+ ts) (hparts : (splitBody 0 body).1 = some parts) :
    ∀ p ∈ parts, p ⊆ ts := by
  refine forall_mem_splitBody (P := (· ∈ ts)) (fun u hu => ?_) hparts
  exact hbody.subset (List.mem_cons_of_mem _ hu)

/-- The table of a definition is made up of the parts of a body in parentheses. -/
lemma exists_parts_of_readCreate {ts rest : List Token} {t : TableDef}
    (h : readCreate ts = (some t, rest)) :
    ∃ (name : String) (body : List Token) (parts : List (List Token)),
      .lparen :: body <:+ ts ∧ (splitBody 0 body).1 = some parts
        ∧ tableOf? name (parts.filterMap Element.ofTokens?) = some t := by
  rw [readCreate.eq_def] at h
  split at h
  · rename_i r hdrop
    have hr : r <:+ ts := (List.suffix_cons _ r).trans (hdrop ▸ List.dropWhile_suffix isModifier)
    have hname := (readName_suffix (dropCondition r)).trans (dropCondition_suffix r)
    rw [readTable.eq_def] at h
    split at h
    · rename_i name body hread
      rw [hread] at hname
      split at h
      · rename_i parts rest' hsplit
        exact ⟨name, body, parts, hname.trans hr, congrArg Prod.fst hsplit, (Prod.mk.inj h).1⟩
      · cases (Prod.mk.inj h).1
    · cases (Prod.mk.inj h).1
  · cases (Prod.mk.inj h).1

/-- What holds of each table that the parts of a body among the given tokens make up holds of all
tables among the tokens. -/
lemma forall_mem_definitions {P : TableDef → Prop} {ts : List Token}
    (h : ∀ name body (parts : List (List Token)) t, .lparen :: body <:+ ts →
      (splitBody 0 body).1 = some parts →
      tableOf? name (parts.filterMap Element.ofTokens?) = some t → P t) :
    ∀ t ∈ definitions ts, P t := by
  have hrest : ∀ {r : List Token} {o rest}, readCreate r = (o, rest) → rest <:+ r := by
    intro r o rest hr
    have hsuffix := readCreate_suffix r
    rwa [hr] at hsuffix
  have hall : ∀ us, us <:+ ts → ∀ t ∈ definitions us, P t := by
    intro us hsuffix
    fun_induction definitions us with
    | case1 => exact fun t ht => absurd ht List.not_mem_nil
    | case2 r d rest hr ih =>
      have hts : r <:+ ts := (List.suffix_cons _ r).trans hsuffix
      obtain ⟨name, body, parts, hbody, hparts, ht⟩ := exists_parts_of_readCreate hr
      exact List.forall_mem_cons.mpr
        ⟨h name body parts d (hbody.trans hts) hparts ht, ih ((hrest hr).trans hts)⟩
    | case3 r rest hr ih => exact ih (((hrest hr).trans (List.suffix_cons _ r)).trans hsuffix)
    | case4 t r hne ih => exact ih ((List.suffix_cons t r).trans hsuffix)
  exact hall ts List.suffix_rfl

/-- The tables of a script are well formed. -/
theorem wellFormed_of_mem_parse {s : String} {t : TableDef} (h : t ∈ parse s) : t.WellFormed :=
  forall_mem_definitions (fun _ _ _ _ _ _ => tableOf?_wellFormed) t (mem_of_mem_keepFirst t h)

/-- No two tables of a script have matching names. -/
theorem distinct_parse (s : String) : DistinctNames ((parse s).map fun t => t.name) :=
  List.pairwise_map.mpr (pairwise_keepFirst _ _)

end Script

/-! ### Identities -/

/-- The definition of a table, without identities, comment and place. -/
def Table.toDef (t : Table) : TableDef :=
  ⟨t.name, t.columns.map fun c => c.toColumnDef⟩

lemma toColumnDef_mapM_ofDef (cs : List ColumnDef) (ids : IdSupply) :
    (cs.mapM Column.ofDef ids).1.map (fun c => c.toColumnDef) = cs :=
  (map_mapM (k := id) (fun _ _ => rfl) cs ids).trans (List.map_id cs)

/-- A table with new identities has the definition that it comes from, and no comment. -/
lemma ofDef_spec (position : Position) (d : TableDef) (ids : IdSupply) :
    (Table.ofDef position d ids).1.toDef = d ∧ (Table.ofDef position d ids).1.comment = none :=
  ⟨congrArg (TableDef.mk d.name) (toColumnDef_mapM_ofDef d.columns _), rfl⟩

/-- So have the tables of a list, whatever their places are. -/
lemma ofDefs_spec (ds : List TableDef) (ids : IdSupply) :
    (Table.ofDefs ds ids).1.map Table.toDef = ds
      ∧ ∀ t ∈ (Table.ofDefs ds ids).1, t.comment = none := by
  have hdefs : (ds.zipIdx.mapM (fun p => Table.ofDef (.grid p.2) p.1) ids).1.map Table.toDef
      = ds.zipIdx.map Prod.fst :=
    map_mapM (fun p ids => (ofDef_spec (.grid p.2) p.1 ids).1) _ _
  have hcomments : ∀ t ∈ (ds.zipIdx.mapM (fun p => Table.ofDef (.grid p.2) p.1) ids).1,
      t.comment = none :=
    forall_mem_mapM (fun p ids => (ofDef_spec (.grid p.2) p.1 ids).2) _ _
  rw [List.zipIdx_map_fst] at hdefs
  exact ⟨hdefs, hcomments⟩

/-- A table that comes from a script has its definition in the script. -/
lemma Script.toDef_mem_parse {s : String} {ids : IdSupply} {t : Table}
    (h : t ∈ (Table.ofDefs (parse s) ids).1) : t.toDef ∈ parse s := by
  have hdefs := (ofDefs_spec (parse s) ids).1
  rw [← hdefs]
  exact List.mem_map_of_mem h

end SchemaDesigner
