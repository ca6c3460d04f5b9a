/-
Where tables lie on the canvas, along a sequence of changes that move none of them.

* `Position.grid_eq`, `Position.grid_inj`: the places of the grid are whole numbers, so they differ
  as long as a float holds them exactly;
* `Schema.LiesApart`, `Schema.FillsGrid`: no two tables lie in one place, and the tables take the
  first places of the grid in their order;
* `Command.CoversTable`, `Command.LeavesGap`: a table is added where another one lies, and a table
  is deleted that others follow;
* `Schema.positions_of_apply`: the places after a change;
* `Schema.coversTable_of_leavesGap`: the number of tables is no free place behind a gap;
* `Schema.liesApart_run_iff`: the tables lie apart all along if and only if no accepted command
  covers one, and they fill the grid as long as none leaves a gap.
-/
import Mathlib.Data.List.Nodup
import SchemaDesigner.Proofs.Float.Whole
import SchemaDesigner.Proofs.Schema.Frame
import SchemaDesigner.Proofs.Schema.Trace
import SchemaDesigner.Proofs.Script.Keys

namespace SchemaDesigner

/-! ### Places of the grid -/

namespace Position

variable {i j n : ℕ}

/-- Below `2 ^ 46` the coordinates are exact. -/
lemma grid_eq (h : i < 2 ^ 46) :
    grid i = ⟨Whole.packed (100 + i % 4 * 320), Whole.packed (100 + i / 4 * 280)⟩ := by
  have hmargin : (100.0 : Float) = Whole.packed 100 := by decide
  have hwidth : (320.0 : Float) = Whole.packed 320 := by decide
  have hheight : (280.0 : Float) = Whole.packed 280 := by decide
  rw [grid, Whole.toFloat_eq_packed (by omega), Whole.toFloat_eq_packed (by omega), hmargin, hwidth,
    hheight, Whole.packed_mul (by omega) (by decide) (by omega),
    Whole.packed_mul (by omega) (by decide) (by omega), Whole.packed_add (by omega),
    Whole.packed_add (by omega)]

lemma grid_inj (hi : i < 2 ^ 46) (hj : j < 2 ^ 46) (h : grid i = grid j) : i = j := by
  rw [grid_eq hi, grid_eq hj] at h
  obtain ⟨hx, hy⟩ := Position.mk.inj h
  have hcolumn := Whole.packed_inj (by omega) (by omega) hx
  have hrow := Whole.packed_inj (by omega) (by omega) hy
  omega

lemma nodup_grid (h : n ≤ 2 ^ 46) : ((List.range n).map grid).Nodup := by
  refine List.Nodup.map_on (fun i hi j hj => grid_inj ?_ ?_) List.nodup_range
  · have := List.mem_range.mp hi
    omega
  · have := List.mem_range.mp hj
    omega

end Position

/-! ### Places of tables -/

namespace Schema

/-- The places of the tables, in their order. -/
def positions (s : Schema) : List Position :=
  s.tables.map fun t => t.position

/-- No two tables lie in one place. -/
def LiesApart (s : Schema) : Prop :=
  s.positions.Nodup

instance (s : Schema) : Decidable s.LiesApart :=
  inferInstanceAs (Decidable s.positions.Nodup)

/-- The tables take the first places of the grid, in their order. -/
def FillsGrid (s : Schema) : Prop :=
  s.positions = (List.range s.tables.length).map Position.grid

lemma length_positions (s : Schema) : s.positions.length = s.tables.length :=
  List.length_map _

lemma fillsGrid_of_positions_eq {s : Schema} {n : ℕ}
    (h : s.positions = (List.range n).map Position.grid) : s.FillsGrid := by
  have hlength := s.length_positions
  rw [h, List.length_map, List.length_range] at hlength
  rw [FillsGrid, h, hlength]

lemma FillsGrid.liesApart {s : Schema} (h : s.FillsGrid) (hlimit : s.tables.length ≤ 2 ^ 46) :
    s.LiesApart := by
  rw [LiesApart, h]
  exact Position.nodup_grid hlimit

end Schema

/-! ### Through a change -/

namespace Command

variable {s : Schema} {command : Command} {fresh : TableId}

/-- The places that the command gives to new tables. -/
def addedPositions (s : Schema) : Command → List Position
  | addTable _ => [.grid s.tables.length]
  | _ => []

/-- The command puts a new table where another one lies. -/
def CoversTable (s : Schema) (command : Command) : Prop :=
  ∃ p ∈ command.addedPositions s, p ∈ s.positions

instance (s : Schema) (command : Command) : Decidable (command.CoversTable s) :=
  inferInstanceAs (Decidable (∃ p ∈ command.addedPositions s, p ∈ s.positions))

/-- The table that the command deletes, and its index. -/
def deletedAt? (s : Schema) : Command → Option (ℕ × Table)
  | deleteTable id => (deleteTable id).tableAt? s
  | _ => none

/-- The command deletes a table that others follow. -/
def LeavesGap (s : Schema) (command : Command) : Prop :=
  ∃ p ∈ command.deletedAt? s, p.1 + 1 < s.tables.length

instance (s : Schema) (command : Command) : Decidable (command.LeavesGap s) :=
  inferInstanceAs (Decidable (∃ p ∈ command.deletedAt? s, p.1 + 1 < s.tables.length))

lemma coversTable_addTable {name : String} :
    (addTable name).CoversTable s ↔ .grid s.tables.length ∈ s.positions := by
  simp [CoversTable, addedPositions]

lemma not_coversTable (h : command.addedPositions s = []) : ¬command.CoversTable s := by
  rintro ⟨p, hp, -⟩
  rw [h] at hp
  exact absurd hp List.not_mem_nil

lemma getElem?_of_deletedAt? {p : ℕ × Table} (h : command.deletedAt? s = some p) :
    s.tables[p.1]? = some p.2 := by
  cases command
  case deleteTable id => exact getElem?_of_tableAt? h
  all_goals cases h

/-- If no table is deleted, what remains of the tables lies where they lay. -/
lemma positions_remaining (h : command.deletedAt? s = none) :
    (command.remaining s).map (fun t => t.position) = s.positions := by
  cases command
  case deleteTable id =>
    rw [remaining, show (deleteTable id).tableAt? s = none from h]
    rfl
  case removeColumn id name =>
    rw [remaining]
    cases (removeColumn id name).tableAt? s with
    | none => rfl
    | some p =>
      cases (removeColumn id name).columnAt? s with
      | none => rfl
      | some q => exact map_modify_of_eq fun _ => rfl
  all_goals rfl

/-- A command that adds no table and moves none keeps the remaining tables where they are. -/
lemma Frame.positions {tables : List Table} (h : command.Frame fresh s tables)
    (hmove : ¬command.MovesTable) (hadds : command.addedTables fresh = []) :
    tables.map (fun t => t.position) = (command.remaining s).map fun t => t.position := by
  have hlength := congrArg List.length h.ids
  rw [hadds, List.append_nil, List.length_map, List.length_map] at hlength
  refine List.ext_getElem (by simpa using hlength) fun i hi hi' => ?_
  rw [List.length_map] at hi hi'
  have hkept := h.tables i _ _ (List.getElem?_eq_getElem hi') (List.getElem?_eq_getElem hi)
  rw [List.getElem_map, List.getElem_map]
  exact hkept.position.resolve_left fun hmoves => hmove hmoves.1

end Command

open Command

namespace Schema

variable {s s' : Schema} {fresh : TableId} {command : Command}

/-- What an accepted change that moves no table makes of the places: a new table is put in the place
that the number of tables gives, the place of a deleted one is left out, and otherwise they stay. -/
lemma positions_of_apply (hmove : ¬command.MovesTable) (h : s.apply fresh command = .ok s') :
    (∃ name, command = .addTable name ∧ s'.positions = s.positions ++ [.grid s.tables.length])
      ∨ command.addedPositions s = []
        ∧ (∃ p ∈ command.deletedAt? s, s'.positions = s.positions.eraseIdx p.1)
      ∨ command.addedPositions s = [] ∧ command.deletedAt? s = none
        ∧ s'.positions = s.positions := by
  have hframe := frame_apply h
  cases command
  case addTable name =>
    obtain ⟨-, -, hs'⟩ := addTable_effect h
    refine .inl ⟨name, rfl, ?_⟩
    rw [positions, hs', List.map_append]
    rfl
  case deleteTable id =>
    obtain ⟨i, table, hi, -⟩ := deleteTable_effect h
    have htable : (Command.deleteTable id).tableAt? s = some (i, table) := tableAt?_eq_some rfl hi
    refine .inr (.inl ⟨rfl, (i, table), htable, ?_⟩)
    rw [positions, hframe.positions hmove rfl, remaining, htable, Option.elim_some, positions,
      List.eraseIdx_map]
  case moveTable id position => exact absurd trivial hmove
  all_goals
    exact .inr (.inr ⟨rfl, rfl, (hframe.positions hmove rfl).trans (positions_remaining rfl)⟩)

/-- Tables that lie apart do so after an accepted change unless it covers one of them. -/
lemma LiesApart.apply_iff (hs : s.LiesApart) (hmove : ¬command.MovesTable)
    (h : s.apply fresh command = .ok s') : s'.LiesApart ↔ ¬command.CoversTable s := by
  rcases positions_of_apply hmove h with ⟨name, rfl, hs'⟩ | ⟨hadds, p, -, hs'⟩ | ⟨hadds, -, hs'⟩
  · rw [LiesApart, hs', coversTable_addTable, ← List.concat_eq_append, List.nodup_concat]
    exact and_iff_left hs
  · refine iff_of_true ?_ (not_coversTable hadds)
    rw [LiesApart, hs']
    exact hs.sublist (List.eraseIdx_sublist _ _)
  · refine iff_of_true ?_ (not_coversTable hadds)
    rw [LiesApart, hs']
    exact hs

/-- Tables that fill the grid do so after an accepted change unless it leaves a gap. -/
lemma FillsGrid.apply (hs : s.FillsGrid) (hmove : ¬command.MovesTable)
    (hgap : ¬command.LeavesGap s) (h : s.apply fresh command = .ok s') : s'.FillsGrid := by
  rcases positions_of_apply hmove h with ⟨name, rfl, hs'⟩ | ⟨-, p, hp, hs'⟩ | ⟨-, -, hs'⟩
  · refine fillsGrid_of_positions_eq (n := s.tables.length + 1) ?_
    rw [hs', hs, List.range_succ, List.map_append]
    rfl
  · have hlt := (List.getElem?_eq_some_iff.mp (getElem?_of_deletedAt? hp)).1
    have hlast : s.tables.length = p.1 + 1 := by
      by_contra hne
      exact hgap ⟨p, hp, by omega⟩
    refine fillsGrid_of_positions_eq (n := p.1) ?_
    rw [hs', hs, hlast, List.range_succ, List.map_append,
      List.eraseIdx_append_of_length_le (by simp)]
    simp
  · exact fillsGrid_of_positions_eq (hs'.trans hs)

/-- If the tables fill the grid and one is deleted that others follow, the next new table covers the
last of them. -/
theorem coversTable_of_leavesGap {id : TableId} (hs : s.FillsGrid)
    (hgap : (Command.deleteTable id).LeavesGap s)
    (h : s.apply fresh (.deleteTable id) = .ok s') (name : String) :
    (Command.addTable name).CoversTable s' := by
  have hmove : ¬(Command.deleteTable id).MovesTable := not_false
  rcases positions_of_apply hmove h with ⟨_, hname, -⟩ | ⟨-, p, hp, hs'⟩ | ⟨-, hnone, -⟩
  · cases hname
  · obtain ⟨q, hq, hlt⟩ := hgap
    obtain rfl : p = q := Option.some.inj (hp.symm.trans hq)
    have hlength : s'.tables.length = s.tables.length - 1 := by
      rw [← length_positions, hs', List.length_eraseIdx_of_lt (by rw [length_positions]; omega),
        length_positions]
    -- the last table is not the deleted one, and its place is that of the number of tables left
    rw [coversTable_addTable, hs', hs, hlength, List.mem_eraseIdx_iff_getElem?]
    refine ⟨s.tables.length - 1, by omega, ?_⟩
    rw [List.getElem?_map, List.getElem?_range (by omega), Option.map_some]
  · obtain ⟨q, hq, -⟩ := hgap
    rw [hnone] at hq
    cases hq

/-! ### Along a sequence of commands -/

/-- Commands that move no table and leave no gap keep the grid filled. -/
lemma FillsGrid.run {commands : List (TableId × Command)} (hs : s.FillsGrid)
    (hmove : ∀ entry ∈ commands, ¬entry.2.MovesTable)
    (hgap : ∀ change ∈ s.accepted commands, ¬change.2.LeavesGap change.1) :
    (s.run commands).FillsGrid := by
  induction commands generalizing s with
  | nil => exact hs
  | cons entry rest ih =>
    obtain ⟨fresh, command⟩ := entry
    obtain ⟨hfirst, hrest⟩ := List.forall_mem_cons.mp hmove
    rw [accepted] at hgap
    show (run (s.step fresh command) rest).FillsGrid
    rw [step]
    cases happly : s.apply fresh command with
    | error e =>
      rw [happly] at hgap
      exact ih hs hrest hgap
    | ok next =>
      rw [happly] at hgap
      obtain ⟨hnone, hgap⟩ := List.forall_mem_cons.mp hgap
      exact ih (hs.apply hfirst hnone happly) hrest hgap

lemma fillsGrid_empty : empty.FillsGrid := rfl

lemma fillsGrid_ofDefs (ds : List TableDef) (ids : IdSupply) :
    FillsGrid ⟨(Table.ofDefs ds ids).1⟩ :=
  fillsGrid_of_positions_eq (positions_ofDefs ds ids)

/-- Take the schema without tables or that of any script, of at most `2 ^ 46` tables, where floats
tell the places of the grid apart, and any commands that move no table. No two tables lie in one
place at any time if and only if no accepted command puts a new table where another one lies. As
long as none deletes a table that others follow, the tables even fill the grid in their order. -/
theorem liesApart_run_iff {s : Schema} {commands : List (TableId × Command)}
    (hs : s = empty ∨ ∃ script ids, s = ⟨(Table.ofDefs (Script.parse script) ids).1⟩)
    (hlimit : s.tables.length ≤ 2 ^ 46) (hmove : ∀ entry ∈ commands, ¬entry.2.MovesTable) :
    ((∀ n, (s.run (commands.take n)).LiesApart)
        ↔ ∀ change ∈ s.accepted commands, ¬change.2.CoversTable change.1)
      ∧ ((∀ change ∈ s.accepted commands, ¬change.2.LeavesGap change.1) →
        (s.run commands).FillsGrid) := by
  have hgrid : s.FillsGrid := by
    rcases hs with rfl | ⟨script, ids, rfl⟩
    · exact fillsGrid_empty
    · exact fillsGrid_ofDefs _ _
  refine ⟨?_, hgrid.run hmove⟩
  refine forall_run_take_iff_of_admits (fun _ commands => ∀ entry ∈ commands, ¬entry.2.MovesTable)
    ?_ ?_ hmove (hgrid.liesApart hlimit)
  · exact fun _ _ _ _ h => (List.forall_mem_cons.mp h).2
  · exact fun _ _ _ _ _ h hapart happly => hapart.apply_iff (List.forall_mem_cons.mp h).1 happly

/-- A run in which the last table gives way to another one. -/
def replacingCommands : List (TableId × Command) :=
  [(⟨"1"⟩, .addTable "a"), (⟨"2"⟩, .addTable "b"), (⟨"3"⟩, .deleteTable ⟨"2"⟩),
    (⟨"4"⟩, .addTable "c")]

/-- The table that comes last takes the place of the one that was deleted, and no two lie on each
other at any time. -/
theorem liesApart_replacingCommands :
    (∀ change ∈ empty.accepted replacingCommands, ¬change.2.CoversTable change.1)
      ∧ (∀ change ∈ empty.accepted replacingCommands, ¬change.2.LeavesGap change.1)
      ∧ (∀ n, (empty.run (replacingCommands.take n)).LiesApart)
      ∧ (empty.run replacingCommands).FillsGrid :=
  have hmove : ∀ entry ∈ replacingCommands, ¬entry.2.MovesTable := by
    simp [replacingCommands, Command.MovesTable]
  have hcovers : ∀ change ∈ empty.accepted replacingCommands,
      ¬change.2.CoversTable change.1 := by decide
  have hgap : ∀ change ∈ empty.accepted replacingCommands, ¬change.2.LeavesGap change.1 := by
    decide
  have h := liesApart_run_iff (.inl rfl) (by decide) hmove
  ⟨hcovers, hgap, h.1.mpr hcovers, h.2 hgap⟩

/-- A run in which the first of two tables is deleted and another one is added. -/
def coveringCommands : List (TableId × Command) :=
  [(⟨"1"⟩, .addTable "a"), (⟨"2"⟩, .addTable "b"), (⟨"3"⟩, .deleteTable ⟨"1"⟩),
    (⟨"4"⟩, .addTable "c")]

/-- One table is left, so the new one gets the second place, where the other one lies. -/
theorem not_liesApart_coveringCommands : (∀ entry ∈ coveringCommands, ¬entry.2.MovesTable)
    ∧ (empty.run coveringCommands).positions = [.grid 1, .grid 1]
    ∧ ¬(empty.run coveringCommands).LiesApart :=
  ⟨by simp [coveringCommands, Command.MovesTable], by decide, by decide⟩

end Schema

end SchemaDesigner
