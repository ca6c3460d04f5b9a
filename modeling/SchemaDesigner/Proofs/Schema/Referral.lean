/-
What becomes of the references of a list of tables: each of them is drawn or it is lost.

* `Referral`, `referrals`: the referring columns, in the order of tables and columns;
* `Referral.IsLost`: no table has the name that the reference spells;
* `Relationship.ofTables_eq`, `StaleReference.ofTables_eq`: relationships and stale references are
  made of the referrals, one by one;
* `Relationship.StandsFor`: a relationship describes a referral and leads to the first table of the
  name;
* `AccountsForReferrals`, `accountsForReferrals`: the lost referrals are the stale references for
  want of a table, and the others are the relationships, whatever the names of the tables are. With
  distinct names the order of the tables does not matter.
-/
import SchemaDesigner.Proofs.Schema.ForeignKeys

namespace SchemaDesigner

/-! ### Referrals -/

/-- A column with a reference, in its table. -/
structure Referral where
  table : Table
  column : Column
  reference : Reference
  deriving DecidableEq

/-- The referring columns of some tables, in the order of tables and columns. -/
def referrals (tables : List Table) : List Referral :=
  (Schema.referringColumns ⟨tables⟩).map fun p => ⟨p.1, p.2.1, p.2.2⟩

namespace Referral

/-- No table has the name that the reference spells. -/
def IsLost (tables : List Table) (x : Referral) : Prop :=
  ∀ t ∈ tables, namesMatch t.name x.reference.table = false

instance (tables : List Table) (x : Referral) : Decidable (x.IsLost tables) :=
  inferInstanceAs (Decidable (∀ t ∈ tables, _))

/-- The relationship to a table. -/
def relationship (x : Referral) (target : Table) : Relationship where
  sourceTable := x.table.name
  sourceColumn := x.column.name
  targetTable := target.name
  targetColumn := x.reference.column
  optional := x.column.nullable

/-- The stale reference for a reason. -/
def stale (x : Referral) (reason : StaleReason) : StaleReference where
  table := x.table.name
  column := x.column.name
  reference := x.reference
  reason := reason

end Referral

section Referrals

variable {tables : List Table} {x : Referral}

/-- Each column with a reference has its referral. -/
lemma referrals_eq (tables : List Table) : referrals tables
    = tables.flatMap fun t => t.columns.filterMap fun c => c.reference.map (Referral.mk t c) := by
  rw [referrals, Schema.referringColumns, List.map_flatMap]
  refine List.flatMap_congr fun t _ => ?_
  rw [List.map_map, Table.references, List.map_filterMap]
  refine List.filterMap_congr fun c _ => ?_
  rw [Option.map_map]
  rfl

lemma mem_referrals : x ∈ referrals tables
    ↔ x.table ∈ tables ∧ x.column ∈ x.table.columns ∧ x.column.reference = some x.reference := by
  simp only [referrals_eq, List.mem_flatMap, List.mem_filterMap, Option.map_eq_some_iff]
  constructor
  · rintro ⟨t, ht, c, hc, r, hr, rfl⟩
    exact ⟨ht, hc, hr⟩
  · rintro ⟨ht, hc, hr⟩
    exact ⟨x.table, ht, x.column, hc, x.reference, hr, rfl⟩

lemma referrals_perm {tables' : List Table} (h : tables.Perm tables') :
    (referrals tables).Perm (referrals tables') := by
  rw [referrals_eq, referrals_eq]
  exact h.flatMap_right _

lemma Referral.isLost_iff : x.IsLost tables ↔ tableNamed? tables x.reference.table = none :=
  tableNamed?_eq_none_iff.symm

lemma Schema.foreignKeys_eq (s : Schema) : s.foreignKeys
    = (referrals s.tables).map fun x => .spelled x.table x.column x.reference := by
  rw [foreignKeys, referrals_eq, List.map_flatMap]
  refine List.flatMap_congr fun t _ => ?_
  rw [Table.foreignKeys, List.map_filterMap]
  refine List.filterMap_congr fun c _ => ?_
  rw [Option.map_map]
  rfl

/-- Each referral to a table that exists has its relationship. -/
lemma Relationship.ofTables_eq (tables : List Table) : Relationship.ofTables tables
    = (referrals tables).filterMap fun x =>
      (tableNamed? tables x.reference.table).map x.relationship := by
  refine (Schema.relationships_eq ⟨tables⟩).trans ?_
  rw [Schema.foreignKeys_eq, List.filterMap_map]
  rfl

/-- Each referral with which something is wrong has its stale reference. -/
lemma StaleReference.ofTables_eq (tables : List Table) : StaleReference.ofTables tables
    = (referrals tables).filterMap fun x => (x.reference.staleReason? tables).map x.stale := by
  rw [ofTables, referrals_eq, List.filterMap_flatMap]
  refine List.flatMap_congr fun t _ => ?_
  rw [ofTable, Table.references, List.filterMap_filterMap, List.filterMap_filterMap]
  refine List.filterMap_congr fun c _ => ?_
  cases c.reference <;> rfl

/-- What tells tables apart tells their referrals apart, together with the names of the columns. -/
lemma nodup_map_referrals {α : Type} {f : Table → α} (htables : (tables.map f).Nodup)
    (hcolumns : ∀ t ∈ tables, DistinctNames (t.columns.map fun c => c.name)) :
    ((referrals tables).map fun x => (f x.table, x.column.name)).Nodup := by
  have hkeys : ((referrals tables).map fun x => (f x.table, x.column.name))
      = tables.flatMap fun t => t.columns.filterMap fun c =>
        c.reference.map fun _ => (f t, c.name) := by
    simp only [referrals_eq, List.map_flatMap, List.map_filterMap, Option.map_map]
    rfl
  rw [hkeys, List.nodup_flatMap]
  refine ⟨fun t ht => ?_, (List.pairwise_map.mp htables).imp fun hne => ?_⟩
  -- the referrals of one table differ in their columns, those of two in their tables
  · refine List.Pairwise.filterMap _ (fun c d hcd k hk l hl => ?_)
      (List.pairwise_map.mp (hcolumns t ht))
    obtain ⟨-, -, rfl⟩ := Option.map_eq_some_iff.mp hk
    obtain ⟨-, -, rfl⟩ := Option.map_eq_some_iff.mp hl
    intro hsame
    rw [(Prod.mk.inj hsame).2, namesMatch_refl] at hcd
    exact Bool.noConfusion hcd
  · intro k hk hk'
    obtain ⟨c, -, hc⟩ := List.mem_filterMap.mp hk
    obtain ⟨d, -, hd⟩ := List.mem_filterMap.mp hk'
    obtain ⟨-, -, rfl⟩ := Option.map_eq_some_iff.mp hc
    obtain ⟨-, -, hsame⟩ := Option.map_eq_some_iff.mp hd
    exact hne (Prod.mk.inj hsame).1.symm

/-- What is made of each referral to a table that exists, one by one. -/
lemma forall₂_filterMap_referrals {α : Type} {R : α → Referral → Prop} {g : Referral → Table → α}
    (h : ∀ x ∈ referrals tables, ∀ t, tableNamed? tables x.reference.table = some t →
      R (g x t) x) :
    List.Forall₂ R
      ((referrals tables).filterMap fun x => (tableNamed? tables x.reference.table).map (g x))
      ((referrals tables).filter fun x => ¬x.IsLost tables) := by
  have hsame : ((referrals tables).filterMap fun x =>
        (tableNamed? tables x.reference.table).map (g x))
      = ((referrals tables).filter fun x => ¬x.IsLost tables).filterMap fun x =>
        (tableNamed? tables x.reference.table).map (g x) := by
    rw [List.filterMap_filter]
    refine List.filterMap_congr fun x _ => ?_
    by_cases hlost : x.IsLost tables
    · simp [hlost, Referral.isLost_iff.mp hlost]
    · simp [hlost]
  rw [hsame]
  refine forall₂_filterMap fun x hx => ?_
  obtain ⟨hmem, hlost⟩ := List.mem_filter.mp hx
  obtain ⟨t, ht⟩ := Option.ne_none_iff_exists'.mp
    (mt Referral.isLost_iff.mpr (of_decide_eq_true hlost))
  exact ⟨g x t, by rw [ht, Option.map_some], h x hmem t ht⟩

end Referrals

/-! ### The account -/

lemma Reference.staleReason?_eq_missingTable {tables : List Table} {r : Reference} :
    r.staleReason? tables = some .missingTable ↔ tableNamed? tables r.table = none := by
  rw [staleReason?]
  cases tableNamed? tables r.table with
  | none => simp
  | some t =>
    dsimp only
    cases t.column? r.column with
    | none => simp
    | some c => cases hc : c.primaryKey <;> simp [hc]

/-- The references that are stale for want of a table are the lost ones. -/
lemma filter_missingTable (tables : List Table) :
    (StaleReference.ofTables tables).filter (fun s => s.reason = .missingTable)
      = ((referrals tables).filter fun x => x.IsLost tables).map fun x =>
        x.stale .missingTable := by
  rw [StaleReference.ofTables_eq, List.filter_filterMap, ← List.filterMap_eq_map,
    List.filterMap_filter]
  refine List.filterMap_congr fun x _ => ?_
  by_cases hlost : x.IsLost tables
  · rw [Reference.staleReason?_eq_missingTable.mpr (Referral.isLost_iff.mp hlost)]
    simp [hlost, Referral.stale]
  · -- what is wrong with the reference, if anything is, is something else
    cases hreason : x.reference.staleReason? tables with
    | none => simp [hlost]
    | some reason =>
      have hother : reason ≠ .missingTable := by
        rintro rfl
        exact hlost (Referral.isLost_iff.mpr (Reference.staleReason?_eq_missingTable.mp hreason))
      simp [hlost, hother, Referral.stale]

/-- The relationship describes the referral, and of the tables that have the name which the
reference spells it leads to the first one. -/
structure Relationship.StandsFor (tables : List Table) (e : Relationship) (x : Referral) : Prop
    extends e.Describes tables (x.table, x.column, x.reference) where
  first : ∃ before t after, tables = before ++ t :: after ∧ t.name = e.targetTable
    ∧ ∀ u ∈ before, namesMatch u.name x.reference.table = false

lemma Referral.standsFor_relationship {tables : List Table} {x : Referral} {t : Table}
    (h : tableNamed? tables x.reference.table = some t) :
    (x.relationship t).StandsFor tables x where
  sourceTable := rfl
  sourceColumn := rfl
  targetTable := ⟨t, (tableNamed?_eq_some h).1, rfl, (tableNamed?_eq_some h).2⟩
  targetColumn := rfl
  optional := rfl
  first := by
    obtain ⟨-, before, after, hsplit, hbefore⟩ := List.find?_eq_some_iff_append.mp h
    exact ⟨before, t, after, hsplit, rfl, fun u hu => (Bool.not_eq_true' _).mp (hbefore u hu)⟩

/-- The stale references and the relationships of some tables account for all their referrals. -/
structure AccountsForReferrals (tables : List Table) : Prop where
  /-- The stale references for want of a table are the lost referrals, in their order. -/
  lost : (StaleReference.ofTables tables).filter (fun s => s.reason = .missingTable)
    = ((referrals tables).filter fun x => x.IsLost tables).map fun x =>
      ⟨x.table.name, x.column.name, x.reference, .missingTable⟩
  /-- The relationships stand for the others one by one, in their order. -/
  drawn : List.Forall₂ (Relationship.StandsFor tables) (Relationship.ofTables tables)
    ((referrals tables).filter fun x => ¬x.IsLost tables)
  /-- If no two names match, the order of the tables makes no difference but that of the order. -/
  reordered : DistinctNames (tables.map fun t => t.name) → ∀ tables', tables.Perm tables' →
    (Relationship.ofTables tables).Perm (Relationship.ofTables tables')
      ∧ (StaleReference.ofTables tables).Perm (StaleReference.ofTables tables')

/-- Whatever the tables are, each of their references is accounted for once, in its order: as a
stale one if its table is missing, and by a relationship if not. Apart from the order this does not
depend on the order of the tables, if no two names match. -/
theorem accountsForReferrals (tables : List Table) : AccountsForReferrals tables where
  lost := filter_missingTable tables
  drawn := by
    rw [Relationship.ofTables_eq]
    exact forall₂_filterMap_referrals fun x _ t ht => x.standsFor_relationship ht
  reordered hnames tables' h :=
    ⟨Relationship.ofTables_perm h hnames, StaleReference.ofTables_perm h hnames⟩

/-- Tables in another order have their relationships and stale references in another order. -/
theorem accountsForReferrals_linkedSchema :
    DistinctNames (Schema.linkedSchema.tables.map fun t => t.name)
      ∧ (Relationship.ofTables Schema.linkedSchema.tables).Perm [
        ⟨"users", "boss", "users", "ID", true⟩, ⟨"users", "last", "orders", "id", false⟩,
        ⟨"orders", "user_id", "users", "Id", true⟩,
        ⟨"orders", "user_code", "users", "code", true⟩]
      ∧ (StaleReference.ofTables Schema.linkedSchema.tables).Perm [
        ⟨"users", "team", ⟨"teams", "id"⟩, .missingTable⟩,
        ⟨"orders", "user_code", ⟨"Users", "code"⟩, .missingColumn⟩] := by
  have hnames : DistinctNames (Schema.linkedSchema.tables.map fun t => t.name) := by decide
  have hperm := (accountsForReferrals Schema.linkedSchema.tables).reordered hnames
    Schema.linkedSchema.tables.reverse (List.reverse_perm _).symm
  exact ⟨hnames, hperm⟩

end SchemaDesigner
