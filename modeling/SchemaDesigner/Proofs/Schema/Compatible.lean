/-
Types of columns that refer to others: the gate compares them when a reference or the type of the
referring column changes, and not when that of the other one does.

* `ColumnDef.incompatibility?_congr`: compatibility is a matter of types and sizes;
* `Column.Fits`: the reference of a column leads to a column of a type that fits;
* `Command.LeavesMisfit`: a column gets a type that does not fit one that refers to it;
* `Replaces.refersToFitting_iff`: which columns are compared when one takes the place of another;
* `Schema.fits_run_iff`: in the schemas built from nothing all references lead to types that fit,
  all along, if and only if no accepted command leaves a misfit.
-/
import SchemaDesigner.Proofs.Compatibility
import SchemaDesigner.Proofs.Schema.OutlineChange

namespace SchemaDesigner

open Schema

/-! ### Compatibility -/

namespace ColumnDef

variable {c c' d d' : ColumnDef}

lemma HasTypeOf.refl (c : ColumnDef) : c.HasTypeOf c :=
  ⟨rfl, rfl⟩

/-- Compatibility is a matter of the types and the sizes. -/
lemma incompatibility?_congr (hc : c.HasTypeOf c') (hd : d.HasTypeOf d') :
    c.incompatibility? d = c'.incompatibility? d' := by
  have hbare : ∀ c d : ColumnDef, c.incompatibility? d
      = ColumnDef.incompatibility? { name := "", type := c.type, size := c.size }
        { name := "", type := d.type, size := d.size } := fun _ _ => rfl
  rw [hbare c, hbare c', hc.1, hc.2, hd.1, hd.2]

/-- A column fits one of the same type and size. -/
lemma incompatibility?_eq_none (h : c.HasTypeOf d) : c.incompatibility? d = none := by
  rw [incompatibility?_congr h (.refl d)]
  exact incompatibility?_self d

end ColumnDef

/-- The reference of the column, if it has one, leads to a column of a type that fits. -/
def Column.Fits (tables : List Table) (c : Column) : Prop :=
  ∀ r ∈ c.reference, ∃ t ∈ tableNamed? tables r.table, ∃ k ∈ t.column? r.column,
    c.incompatibility? k.toColumnDef = none

instance (tables : List Table) (c : Column) : Decidable (c.Fits tables) :=
  inferInstanceAs (Decidable (∀ r ∈ c.reference, ∃ t ∈ tableNamed? tables r.table,
    ∃ k ∈ t.column? r.column, c.incompatibility? k.toColumnDef = none))

/-- The command gives a column a type or a size that does not fit another one which refers to it. -/
def Command.LeavesMisfit (s : Schema) (command : Command) : Prop :=
  command.ReplacesWith s fun t name replacement => ∃ u ∈ s.tables, ∃ c ∈ u.columns,
    (∃ r ∈ c.reference, r.names t.name name = true)
      ∧ ¬(namesMatch u.name t.name = true ∧ namesMatch c.name name = true)
      ∧ c.incompatibility? replacement ≠ none

instance (s : Schema) (command : Command) : Decidable (command.LeavesMisfit s) :=
  inferInstanceAs (Decidable (command.ReplacesWith s _))

/-! ### Through a change -/

/-- Whenever one of the columns refers to another one, its type fits. -/
def RefersToFitting (l : List Outline) : Prop :=
  ∀ p ∈ l, ∀ q ∈ l, p.RefersTo q → p.column.incompatibility? q.column = none

section Change

variable {f : Outline → Outline} {before after : List Outline} {current new p q : Outline}

/-- A reference that has passed the gate leads to a type that fits. -/
lemma Outline.IsAdmitted.incompatibility?_eq_none (h : new.IsAdmitted before)
    (hdistinct : DistinctOutlines before) (hq : q ∈ before) (href : new.RefersTo q) :
    new.column.incompatibility? q.column = none := by
  obtain ⟨r, hr, hnames⟩ := href
  obtain ⟨q', hq', hnames', -, hfits⟩ := h r hr
  rwa [hdistinct q hq q' hq' (Reference.sameNames hnames hnames')]

lemma StemsFrom.refersToFitting {origin : Outline → Outline → Prop}
    (h : StemsFrom origin before after) (hbefore : RefersToFitting before) :
    RefersToFitting after := by
  intro p hp p' hp' href
  obtain ⟨q, hq, hpq⟩ := h.exists_origin p hp
  obtain ⟨q', hq', hpq'⟩ := h.exists_origin p' hp'
  rw [ColumnDef.incompatibility?_congr (h.hasTypeOf p q hpq) (h.hasTypeOf p' q' hpq')]
  exact hbefore q hq q' hq' (h.refersTo p p' q q' hpq hpq' href)

/-- Nothing referred to a column that is added, and its own reference has passed the gate. -/
lemma Adds.refersToFitting (h : Adds new before after) (hdistinct : DistinctOutlines before)
    (hclosed : ∀ p ∈ before, ∀ r, p.column.reference = some r →
      ∃ q ∈ before, r.names q.table q.column.name = true)
    (hbefore : RefersToFitting before) : RefersToFitting after := by
  intro p hp q hq href
  rcases h.shown p hp with rfl | hp <;> rcases h.shown q hq with rfl | hq
  · exact ColumnDef.incompatibility?_eq_none (.refl _)
  · exact h.admitted.incompatibility?_eq_none hdistinct hq href
  · obtain ⟨r, hr, hnames⟩ := href
    obtain ⟨q', hq', hnames'⟩ := hclosed p hp r hr
    exact absurd (Reference.sameNames hnames' hnames) (h.free q' hq')
  · exact hbefore p hp q hq href

/-- The reference of a column that takes the place of another one leads to a type that fits, since
it has passed the gate or was there with the same type. -/
lemma Replaces.incompatibility?_eq_none (h : Replaces f current new before after)
    (hdistinct : DistinctOutlines before) (hbefore : RefersToFitting before) (hq : q ∈ before)
    (href : new.RefersTo q) : new.column.incompatibility? q.column = none := by
  rcases h.admitted with ⟨hsame, htype⟩ | hadmitted
  · obtain ⟨r, hr, hnames⟩ := href
    rw [ColumnDef.incompatibility?_congr htype (.refl q.column)]
    exact hbefore current h.mem q hq ⟨r, hsame ▸ hr, hnames⟩
  · exact hadmitted.incompatibility?_eq_none hdistinct hq href

/-- When a column takes the place of another one, all depends on the columns that referred to that
one: they refer to the new column now, and nothing compares them with it. -/
lemma Replaces.refersToFitting_iff (h : Replaces f current new before after)
    (hdistinct : DistinctOutlines before) (hbefore : RefersToFitting before) :
    RefersToFitting after ↔ ∀ p ∈ before, ¬p.SameNames current → p.RefersTo current →
        p.column.incompatibility? new.column = none := by
  have hcongr : ∀ p q : Outline,
      (f p).column.incompatibility? (f q).column = p.column.incompatibility? q.column := fun p q =>
    ColumnDef.incompatibility?_congr (h.hasTypeOf p) (h.hasTypeOf q)
  constructor
  · intro hafter p hp hother href
    rw [← hcongr]
    exact hafter _ ((h.shown _).mpr (.inr ⟨p, hp, hother, rfl⟩)) _ ((h.shown _).mpr (.inl rfl))
      ((h.refersTo_new p (.inr hp)).mpr href)
  · intro hfits p' hp' q' hq' href
    rcases (h.shown p').mp hp' with rfl | ⟨p, hp, hpother, rfl⟩ <;>
      rcases (h.shown q').mp hq' with rfl | ⟨q, hq, hqother, rfl⟩ <;> rw [hcongr]
    · exact ColumnDef.incompatibility?_eq_none (.refl _)
    · exact h.incompatibility?_eq_none hdistinct hbefore hq
        ((h.refersTo_old _ (.inl rfl) q hq hqother).mp href)
    · exact hfits p hp hpother ((h.refersTo_new p (.inr hp)).mp href)
    · exact hbefore p hp q hq ((h.refersTo_old p (.inr hp) q hq hqother).mp href)

end Change

section Columns

variable {s s' : Schema}

/-- In a schema whose references all resolve, what they lead to is what they name. -/
lemma refersToFitting_iff (hw : s.WellFormed) (hc : s.Closed) :
    RefersToFitting (outlines s.tables) ↔ ∀ t ∈ s.tables, ∀ c ∈ t.columns, c.Fits s.tables := by
  rw [RefersToFitting, forall_outlines]
  refine forall₄_congr fun t ht c hmem => ?_
  constructor
  · intro hfits r hr
    obtain ⟨u, hu, hcolumn⟩ := (hc t ht c hmem r hr).exists_tableNamed? hw.distinct
    obtain ⟨k, hk⟩ := Option.isSome_iff_exists.mp hcolumn
    obtain ⟨hq, hnames⟩ := mem_outlines_of_find hu hk
    exact ⟨u, hu, k, hk, hfits _ hq ⟨r, hr, hnames⟩⟩
  · intro hfits q hq href
    obtain ⟨r, hr, hnames⟩ := href
    obtain ⟨u, hu, k, hk, hnone⟩ := hfits r hr
    obtain ⟨hq', hnames'⟩ := mem_outlines_of_find hu hk
    obtain rfl := hw.distinctOutlines _ hq _ hq' (Reference.sameNames hnames hnames')
    exact hnone

/-- An accepted change keeps the types fitting unless it leaves a misfit. -/
lemma OutlineChange.refersToFitting_iff {command : Command} (h : OutlineChange s s' command)
    (hw : s.WellFormed) (hc : s.Closed) (hbefore : RefersToFitting (outlines s.tables)) :
    RefersToFitting (outlines s'.tables) ↔ ¬command.LeavesMisfit s := by
  have hdistinct := hw.distinctOutlines
  cases h with
  | stems hother h =>
    exact iff_of_true (h.refersToFitting hbefore) fun h => hother h.replacesColumn
  | adds hother h =>
    exact iff_of_true (h.refersToFitting hdistinct (fun p hp r => hc.exists_names hp) hbefore)
      fun h => hother h.replacesColumn
  | refers hother h hnames htype _ =>
    rw [h.refersToFitting_iff hdistinct hbefore]
    refine iff_of_true (fun p hp _ href => ?_) fun h => hother h.replacesColumn
    rw [ColumnDef.incompatibility?_congr (.refl p.column) htype]
    exact hbefore p hp _ h.mem href
  | @replaces t id name current replacement f ht hid hcurrent hname h =>
    have hbare : ∀ c : Column, c.outline.incompatibility?
        { replacement.outline with name := Text.trim replacement.name }
          = c.incompatibility? replacement.toColumnDef := fun c =>
      ColumnDef.incompatibility?_congr ⟨rfl, rfl⟩ ⟨rfl, rfl⟩
    rw [h.refersToFitting_iff hdistinct hbefore, forall_outlines, Command.LeavesMisfit,
      Command.replacesWith_updateColumn hw ht hid]
    simp only [hbare]
    constructor
    · rintro hfits ⟨u, hu, c, hc, ⟨r, hr, hnames⟩, hother, hmisfit⟩
      refine hmisfit (hfits u hu c hc (fun hsame => hother ?_) ⟨r, hr, ?_⟩)
      · exact ⟨hsame.1, namesMatch_trans hsame.2 hname⟩
      · exact (Reference.names_congr hname).trans hnames
    · intro hnone u hu c hc hother href
      obtain ⟨r, hr, hnames⟩ := href
      by_contra hmisfit
      refine hnone ⟨u, hu, c, hc, ⟨r, hr, Reference.names_congr hname ▸ hnames⟩,
        fun hsame => hother ?_, hmisfit⟩
      exact ⟨hsame.1, namesMatch_trans hsame.2 (namesMatch_symm hname)⟩

end Columns

/-! ### Along a sequence of commands -/

namespace Schema

/-- Whatever commands are run on the empty schema, at any time each reference, also a stale one,
leads to a column of a type that fits, if and only if no accepted command gives a column a type that
does not fit another one which refers to it. -/
theorem fits_run_iff {commands : List (TableId × Command)} (hfresh : empty.DrawsFresh commands) :
    (∀ n, ∀ t ∈ (empty.run (commands.take n)).tables, ∀ c ∈ t.columns,
        c.Fits (empty.run (commands.take n)).tables)
      ↔ ∀ change ∈ empty.accepted commands, ¬change.2.LeavesMisfit change.1 := by
  refine OutlineChange.forall_run_empty_iff
    (P := fun s => ∀ t ∈ s.tables, ∀ c ∈ t.columns, c.Fits s.tables)
    (fun _ ht => absurd ht List.not_mem_nil) ?_ hfresh
  intro s s' command hw hc hw' hc' hbefore h
  rw [← refersToFitting_iff hw' hc']
  exact h.refersToFitting_iff hw hc ((refersToFitting_iff hw hc).mpr hbefore)

/-- A run in which a text column grows to which a shorter one refers. -/
def growingCommands : List (TableId × Command) :=
  [(⟨"1"⟩, .addTable "users"),
    (⟨"2"⟩, .addColumn ⟨"1"⟩
      { name := "code", type := .varchar, size := some "10", primaryKey := true, id := ⟨"a"⟩ }),
    (⟨"3"⟩, .addTable "orders"),
    (⟨"4"⟩, .addColumn ⟨"3"⟩
      { name := "user_code", type := .varchar, size := some "5", id := ⟨"b"⟩ }),
    (⟨"5"⟩, .connect ⟨"3"⟩ "user_code" ⟨"1"⟩ "code"),
    (⟨"6"⟩, .updateColumn ⟨"1"⟩ "code"
      { name := "code", type := .varchar, size := some "20", primaryKey := true, id := ⟨"a"⟩ })]

/-- The shorter column fits before and after, and at no time there is a column that does not. -/
theorem fits_growingCommands : empty.DrawsFresh growingCommands
    ∧ (∀ change ∈ empty.accepted growingCommands, ¬change.2.LeavesMisfit change.1)
    ∧ ∀ n, ∀ t ∈ (empty.run (growingCommands.take n)).tables, ∀ c ∈ t.columns,
      c.Fits (empty.run (growingCommands.take n)).tables :=
  have hfresh : empty.DrawsFresh growingCommands := drawsFresh_of_nodup (by decide)
  have hmisfit : ∀ change ∈ empty.accepted growingCommands, ¬change.2.LeavesMisfit change.1 := by
    decide
  ⟨hfresh, hmisfit, (fits_run_iff hfresh).mpr hmisfit⟩

/-- A run in which a primary key gets another type than that of a column which refers to it. -/
def retypingCommands : List (TableId × Command) :=
  [(⟨"1"⟩, .addTable "users"),
    (⟨"2"⟩, .addColumn ⟨"1"⟩ { name := "id", type := .int, primaryKey := true, id := ⟨"a"⟩ }),
    (⟨"3"⟩, .addTable "orders"),
    (⟨"4"⟩, .addColumn ⟨"3"⟩ { name := "user_id", type := .int, id := ⟨"b"⟩ }),
    (⟨"5"⟩, .connect ⟨"3"⟩ "user_id" ⟨"1"⟩ "id"),
    (⟨"6"⟩, .updateColumn ⟨"1"⟩ "id"
      { name := "id", type := .bigInt, primaryKey := true, id := ⟨"a"⟩ })]

/-- No reference is stale, and yet there is one that leads to another type. -/
theorem misfit_retypingCommands : empty.DrawsFresh retypingCommands
    ∧ (empty.run retypingCommands).staleReferences = []
    ∧ ∃ t ∈ (empty.run retypingCommands).tables, ∃ c ∈ t.columns, ∃ r ∈ c.reference,
      ∃ u ∈ (empty.run retypingCommands).tableNamed? r.table, ∃ k ∈ u.column? r.column,
        c.incompatibility? k.toColumnDef = some (.type .int .bigInt) :=
  ⟨drawsFresh_of_nodup (by decide), by decide, by decide⟩

end Schema

end SchemaDesigner
