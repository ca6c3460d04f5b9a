/-
What cascades leave of the foreign keys: deleting a table or removing a column takes away the edges
at either end of what goes, and no others.

* `Schema.Cascades`: just the columns that are gone and the references to them have gone;
* `Schema.Cascades.of_foreignKeys`: what is left of the relationships follows from what is left of
  the references;
* `Command.removes`: the columns that a command removes, by their names;
* `Schema.cascade_apply`: the cascades of both commands are exact.
-/
import Mathlib.Data.List.Find
import SchemaDesigner.Proofs.Schema.ForeignKeys
import SchemaDesigner.Proofs.Schema.Frame

namespace SchemaDesigner

/-! ### Columns and references that are gone -/

/-- From one schema to the other just the columns that are `gone` and the references to such columns
have gone. -/
structure Schema.Cascades (gone : Reference → Bool) (s s' : Schema) : Prop where
  none_left : ∀ t ∈ s'.tables, ∀ c ∈ t.columns, ∀ r ∈ c.reference, gone r = false
  foreignKeys : s'.foreignKeys = s.foreignKeys.filter fun e => !gone e.source && !gone e.target
  relationships : s'.relationships
    = s.relationships.filter fun e => !gone e.source && !gone e.target

section Gone

variable {t : Table} {s s' : Schema}

/-- Of the references of a table those are left that are not to a column which is gone. -/
lemma Table.foreignKeys_mapReferences (gone : Reference → Bool) (t : Table) :
    (t.mapReferences fun r => if gone r then none else some r).foreignKeys
      = t.foreignKeys.filter fun e => !gone e.target := by
  rw [foreignKeys, foreignKeys, mapReferences, List.filterMap_map, List.filter_filterMap]
  refine List.filterMap_congr fun c _ => ?_
  change (c.reference.bind fun r => if gone r then none else some r).map
    (Relationship.spelled t c) = _
  cases c.reference with
  | none => rfl
  | some r => cases hgone : gone r <;> simp [hgone, Option.filter_some]

/-- The columns that are left have the foreign keys that they had. -/
lemma Table.foreignKeys_filter (gone : Reference → Bool) {p : Column → Bool}
    (h : ∀ c ∈ t.columns, p c = !gone ⟨t.name, c.name⟩) :
    Table.foreignKeys { t with columns := t.columns.filter p }
      = t.foreignKeys.filter fun e => !gone e.source := by
  rw [foreignKeys, foreignKeys, List.filterMap_filter, List.filter_filterMap]
  refine List.filterMap_congr fun c hc => ?_
  change (if p c then c.reference.map (Relationship.spelled t c) else none) = _
  rw [h c hc]
  cases c.reference with
  | none => exact ite_self none
  | some r => simp [Option.filter_some]

/-- What is left of the relationships follows from what is left of the references, if the names that
these mean are left. -/
lemma Schema.Cascades.of_foreignKeys {gone : Reference → Bool} {rest : List Table}
    (hgone : ∀ a b column, namesMatch a b = true → gone ⟨a, column⟩ = gone ⟨b, column⟩)
    (hs' : s'.tables = rest.map
      (Table.mapReferences fun r => if gone r then none else some r))
    (hrest : rest.flatMap Table.foreignKeys = s.foreignKeys.filter fun e => !gone e.source)
    (hnames : ∀ r, gone r = false →
      ((rest.map fun t => t.name).find? fun n => namesMatch n r.table)
        = (s.tables.map fun t => t.name).find? fun n => namesMatch n r.table) :
    s.Cascades gone s' := by
  have hkeys : s'.foreignKeys
      = s.foreignKeys.filter fun e => !gone e.source && !gone e.target := by
    rw [Schema.foreignKeys, hs', List.flatMap_map]
    simp only [Table.foreignKeys_mapReferences]
    rw [← List.filter_flatMap, hrest, List.filter_filter]
    simp only [Bool.and_comm]
  have hdeclared : ∀ e : Relationship, gone e.target = false →
      e.declared? s'.tables = e.declared? s.tables := by
    intro e he
    refine Relationship.declared?_congr ?_
    rw [hs', List.map_map]
    exact hnames e.target he
  refine ⟨?_, hkeys, ?_⟩
  · rw [hs']
    intro t ht c hc r hr
    obtain ⟨u, -, rfl⟩ := List.mem_map.mp ht
    obtain ⟨d, -, rfl⟩ := List.mem_map.mp hc
    obtain ⟨q, -, hq⟩ := Option.bind_eq_some_iff.mp hr
    split_ifs at hq with hgone
    exact Option.some.inj hq ▸ Bool.eq_false_iff.mpr hgone
  · rw [relationships_eq, relationships_eq, hkeys, List.filterMap_filter, List.filter_filterMap]
    refine List.filterMap_congr fun e _ => ?_
    have hends : ∀ d ∈ e.declared? s.tables, (!gone d.source && !gone d.target)
        = (!gone e.source && !gone e.target) := by
      intro d hd
      obtain ⟨t, ht, rfl⟩ := Option.map_eq_some_iff.mp hd
      exact congrArg (fun b => !gone e.source && !b) (hgone _ _ _ (tableNamed?_eq_some ht).2)
    split_ifs with hkept
    · rw [hdeclared e (by simpa using (Bool.and_eq_true_iff.mp hkept).2)]
      cases hd : e.declared? s.tables with
      | none => rfl
      | some d => rw [Option.filter_some, if_pos ((hends d hd).trans hkept)]
    · rw [eq_comm, Option.filter_eq_none_iff]
      exact fun d hd => hends d hd ▸ hkept

end Gone

/-! ### Each kind of removal -/

namespace Command

/-- The command takes something away. -/
def IsRemoval : Command → Prop
  | deleteTable _ | removeColumn _ _ => True
  | _ => False

/-- A column of these names goes with what the command takes away. -/
def removes (s : Schema) (command : Command) (r : Reference) : Bool :=
  match command with
  | deleteTable _ => (command.tableAt? s).any fun p => namesMatch r.table p.2.name
  | removeColumn _ _ => (command.tableAt? s).any fun p =>
    (command.columnAt? s).any fun q => r.names p.2.name q.2.name
  | _ => false

end Command

namespace Schema

variable {s s' : Schema} {fresh id : TableId} {command : Command}

lemma cascades_deleteTable (hs : s.HasDistinctNames) (h : s.deleteTable id = .ok s') :
    s.Cascades ((Command.deleteTable id).removes s) s' := by
  obtain ⟨i, table, hi, hs'⟩ := deleteTable_effect h
  have htable : (Command.deleteTable id).tableAt? s = some (i, table) :=
    Command.tableAt?_eq_some rfl hi
  have hremoves : (Command.deleteTable id).removes s = fun r => namesMatch r.table table.name := by
    funext r
    rw [Command.removes, htable, Option.any_some]
  have hrest := hs.tables.eraseIdx_eq_filter (locate_spec hi).1
  rw [hremoves]
  refine .of_foreignKeys (fun a b column hm => ?_) hs' ?_ fun r hr => ?_
  · exact namesMatch_congr hm
  · rw [hrest]
    exact flatMap_filter_eq fun t _ e he => by rw [Table.source_of_mem_foreignKeys he]
  · rw [hrest]
    refine (congrArg _ (List.filter_map (f := fun t : Table => t.name)
      (p := fun n => !namesMatch n table.name)).symm).trans ?_
    rw [List.find?_filter]
    refine List.find?_congr fun n _ => ?_
    rw [Bool.eq_iff_iff, decide_eq_true_iff, and_iff_right_iff_imp, Bool.not_eq_true']
    exact fun hn => (namesMatch_congr hn).trans hr

lemma cascades_removeColumn {name : String} (hs : s.HasDistinctNames)
    (h : s.removeColumn id name = .ok s') :
    s.Cascades ((Command.removeColumn id name).removes s) s' := by
  obtain ⟨i, table, hi, j, removed, hj, hs'⟩ := removeColumn_effect h
  have htable : (Command.removeColumn id name).tableAt? s = some (i, table) :=
    Command.tableAt?_eq_some rfl hi
  have hcolumn : (Command.removeColumn id name).columnAt? s = some (j, removed) :=
    Command.columnAt?_eq_some htable rfl hj
  have hremoves : (Command.removeColumn id name).removes s
      = fun r => r.names table.name removed.name := by
    funext r
    simp only [Command.removes, htable, hcolumn, Option.any_some]
  have hget := (locate_spec hi).1
  rw [hremoves]
  refine .of_foreignKeys (fun a b column hm => ?_) hs' ?_ fun r _ => ?_
  · exact congrArg (· && namesMatch column removed.name) (namesMatch_congr hm)
  · rw [foreignKeys, List.filter_flatMap, List.flatMap_def, List.flatMap_def]
    refine congrArg List.flatten (map_modify_eq_map (fun t ht => ?_) fun k t hne ht => ?_)
    · obtain rfl := Option.some.inj (hget.symm.trans ht)
      have hcolumns := (hs.columns table (List.mem_of_getElem? hget)).eraseIdx_eq_filter
        (Table.locate_spec hj).1
      rw [hcolumns]
      exact Table.foreignKeys_filter (fun r => r.names table.name removed.name)
        fun c _ => by simp [Reference.names]
    · refine (List.filter_eq_self.mpr fun e he => ?_).symm
      have hother : namesMatch t.name table.name = false := by
        rw [← Bool.not_eq_true]
        exact fun hm => hne (hs.table_place ht hget hm)
      rw [Reference.names, Table.source_of_mem_foreignKeys he, hother]
      rfl
  · exact congrArg _ (map_modify_of_eq fun _ => rfl)

/-- After a table is deleted or a column removed from a schema whose names are distinct, no
reference to it is left, all other foreign keys are as they were, and the relationships are the
earlier ones, in order, without those at either end of which it stood. -/
theorem cascade_apply (hs : s.HasDistinctNames) (hremoval : command.IsRemoval)
    (h : s.apply fresh command = .ok s') : s.Cascades (command.removes s) s' := by
  cases command with
  | deleteTable id => exact cascades_deleteTable hs h
  | removeColumn id name => exact cascades_removeColumn hs h
  | _ => exact hremoval.elim

/-- In a schema with a cycle of references, a removed column takes one of the relationships of its
own table along and one of the other table, and a deleted table takes three. -/
theorem cascade_linkedSchema : linkedSchema.HasDistinctNames
    ∧ linkedSchema.relationships.length = 4
    ∧ (∃ s', linkedSchema.apply ⟨"3"⟩ (.removeColumn ⟨"2"⟩ "ID") = .ok s'
      ∧ s'.relationships = [⟨"orders", "user_code", "users", "code", true⟩,
        ⟨"users", "last", "orders", "id", false⟩]
      ∧ linkedSchema.Cascades ((Command.removeColumn ⟨"2"⟩ "ID").removes linkedSchema) s')
    ∧ ∃ s', linkedSchema.apply ⟨"3"⟩ (.deleteTable ⟨"1"⟩) = .ok s'
      ∧ s'.relationships = [⟨"users", "boss", "users", "ID", true⟩]
      ∧ linkedSchema.Cascades ((Command.deleteTable ⟨"1"⟩).removes linkedSchema) s' := by
  have hs := hasDistinctNames_linkedSchema
  have hremove : linkedSchema.apply ⟨"3"⟩ (.removeColumn ⟨"2"⟩ "ID") = .ok _ := rfl
  have hdelete : linkedSchema.apply ⟨"3"⟩ (.deleteTable ⟨"1"⟩) = .ok _ := rfl
  exact ⟨hs, by decide,
    ⟨_, hremove, by decide, cascade_apply hs trivial hremove⟩,
    _, hdelete, by decide, cascade_apply hs trivial hdelete⟩

end Schema

end SchemaDesigner
