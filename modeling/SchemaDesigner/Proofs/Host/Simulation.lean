/-
A host that keeps tables as a text never drifts from a schema that is kept in memory.

* `Host.Call`: the text of a command, with what is read from it;
* `Host.run`, `Host.refusals`: the text after a sequence of calls, and what is told of each;
* `Schema.refusals`: what is told of each command of a sequence in memory;
* `Host.applyCommand_eq`: a call on a text does what its command does to the tables of the text;
* `Host.run_simulates`: a sequence of calls is refused and accepted as the sequence of its commands
  is, and ends in a text of the same tables.
-/
import SchemaDesigner.Host
import SchemaDesigner.Proofs.Schema.Lasting
import SchemaDesigner.Proofs.Schema.Trace
import SchemaDesigner.Proofs.Wire.Reread
import SchemaDesigner.Proofs.Wire.Steady

namespace SchemaDesigner

open Json (IsWritable)

/-! ### Refusals in memory -/

namespace Schema

/-- The message with which a command is refused, if it is. -/
def refusal? (s : Schema) (fresh : TableId) (command : Command) : Option String :=
  match s.apply fresh command with
  | .ok _ => none
  | .error r => some r.message

/-- What is told of each command of a sequence. -/
def refusals : Schema → List (TableId × Command) → List (Option String)
  | _, [] => []
  | s, (fresh, command) :: rest => s.refusal? fresh command :: (s.step fresh command).refusals rest

end Schema

namespace Host

/-! ### Calls of the host -/

/-- The text of a command, and what is read from it when the next identities are `ids`. Each call
has its own supply, so that nothing is asked of the source of identities. -/
structure Call where
  text : String
  ids : IdSupply
  command : Command
  /-- The identities that are left. -/
  left : IdSupply
  reads : Command.ofText text ids = .ok (command, left)

namespace Call

/-- The identity of a table that the call adds. -/
def fresh (c : Call) : TableId :=
  ⟨c.left.draw.1⟩

/-- The command of a call, with the identity of a table that it adds. -/
def entry (c : Call) : TableId × Command :=
  (c.fresh, c.command)

/-- A column that is read with the command is in normal form. -/
lemma isNormal (c : Call) : c.command.IsNormal :=
  Command.IsStorable.isNormal
    (Read.ensures_ofText Command.ensures_read c.text c.ids c.command c.left c.reads)

end Call

/-- The text of the tables after a call. If it is refused, the host keeps the old one. -/
def step (text : String) (c : Call) : String :=
  match applyCommand text c.text c.ids with
  | .ok (next, _) => next
  | .error _ => text

/-- The text of the tables after a sequence of calls. -/
def run (text : String) (calls : List Call) : String :=
  calls.foldl step text

/-- The message with which a call is refused, if it is. -/
def refusal? (text : String) (c : Call) : Option String :=
  match applyCommand text c.text c.ids with
  | .ok _ => none
  | .error e => some e.message

/-- What the host is told of each call of a sequence. -/
def refusals : String → List Call → List (Option String)
  | _, [] => []
  | text, c :: calls => refusal? text c :: refusals (step text c) calls

/-! ### One call -/

section Step

variable {text : String} {s : Schema}

/-- What is read is handed on, with the identities that are left. -/
lemma reading_bind {α β : Type} {x : Read α} {ids left : IdSupply} {a : α}
    (h : x ids = .ok (a, left)) (f : α → Service β) : (reading x >>= f) ids = f a left := by
  change ((x ids).mapError ServiceError.unreadable >>= fun p => f p.1 p.2) = f a left
  rw [h]
  rfl

/-- A call on a text does what its command does to the tables of the text. -/
lemma applyCommand_eq (hread : Tables.ofText text = pure s.tables) (c : Call) :
    applyCommand text c.text c.ids = match s.apply c.fresh c.command with
      | .ok next => .ok (Tables.toText next.tables, c.left.draw.2)
      | .error r => .error (.rejected r) := by
  have htables : Tables.ofText text c.ids = .ok (s.tables, c.ids) := congrFun hread c.ids
  have hfresh : Read.freshId c.left = .ok (c.fresh.text, c.left.draw.2) := rfl
  rw [applyCommand, reading_bind htables, reading_bind c.reads, reading_bind hfresh]
  change (match s.apply c.fresh c.command with
      | .ok next => pure (Tables.toText next.tables)
      | .error r => throw (.rejected r) : Service String) c.left.draw.2 = _
  cases s.apply c.fresh c.command with
  | error r => rfl
  | ok next => rfl

lemma refusal?_eq (hread : Tables.ofText text = pure s.tables) (c : Call) :
    refusal? text c = s.refusal? c.fresh c.command := by
  rw [refusal?, applyCommand_eq hread, Schema.refusal?]
  cases s.apply c.fresh c.command with
  | error r => rfl
  | ok next => rfl

/-- The text after a call is one of the tables after its command. -/
lemma ofText_step (hread : Tables.ofText text = pure s.tables) (hs : s.IsLasting) (c : Call)
    (hplace : ∀ t ∈ (s.step c.fresh c.command).tables, t.position.IsReadBack) :
    Tables.ofText (step text c) = pure (s.step c.fresh c.command).tables := by
  have hlasting : (s.step c.fresh c.command).IsLasting := hs.step _ c.isNormal
  rw [step, applyCommand_eq hread]
  rw [Schema.step] at hplace hlasting ⊢
  cases happly : s.apply c.fresh c.command with
  | error r => exact hread
  | ok next =>
    rw [happly] at hplace hlasting
    exact Tables.ofText_toText (fun t ht d hd => ((hlasting t ht).columns d hd).storable) hplace

end Step

/-! ### Sequences of calls -/

/-- On a text of the tables of a schema, a sequence of calls goes as that of its commands does. -/
lemma run_of_isLasting {text : String} {s : Schema} {calls : List Call}
    (hread : Tables.ofText text = pure s.tables) (hs : s.IsLasting)
    (hplace : ∀ n, ∀ t ∈ (s.run ((calls.map Call.entry).take n)).tables, t.position.IsReadBack) :
    refusals text calls = s.refusals (calls.map Call.entry)
      ∧ Tables.ofText (run text calls) = pure (s.run (calls.map Call.entry)).tables := by
  induction calls generalizing text s with
  | nil => exact ⟨rfl, hread⟩
  | cons c calls ih =>
    obtain ⟨-, hplace⟩ := (Schema.forall_run_take_cons
      (P := fun s => ∀ t ∈ s.tables, t.position.IsReadBack)).mp hplace
    have hnext := ofText_step hread hs c (hplace 0)
    obtain ⟨hrefusals, htext⟩ := ih hnext (hs.step _ c.isNormal) hplace
    refine ⟨?_, htext⟩
    rw [refusals, refusal?_eq hread, hrefusals]
    rfl

/-- Suppose that a text gives tables without an identity being drawn, and that no table and no
column has a blank name. Then a host that keeps this text from call to call is told the same of each
call as is told of its command in memory, and ends with a text of the tables that are in memory
then. The numbers that are written on the way have to be read back. -/
theorem run_simulates {text : String} {ids : IdSupply} {ts : List Table} {calls : List Call}
    (hread : Tables.ofText text ids = .ok (ts, ids))
    (htables : ∀ t ∈ ts, Text.isBlankText t.name = false)
    (hcolumns : ∀ t ∈ ts, ∀ c ∈ t.columns, Text.isBlankText c.name = false)
    (hplace : ∀ n, ∀ t ∈ (Schema.run ⟨ts⟩ ((calls.map Call.entry).take n)).tables,
      t.position.IsReadBack) :
    refusals text calls = Schema.refusals ⟨ts⟩ (calls.map Call.entry)
      ∧ ∀ later, Tables.ofText (run text calls) later
        = .ok ((Schema.run ⟨ts⟩ (calls.map Call.entry)).tables, later) := by
  have hstorable : ∀ t ∈ ts, t.IsStorable :=
    Read.ensures_ofText (Read.ensures_list (Table.ensures_read .text)) text ids ts ids hread
  have hlasting : Schema.IsLasting ⟨ts⟩ := fun t ht =>
    ⟨htables t ht, fun c hc => ⟨hstorable t ht c hc, hcolumns t ht c hc⟩⟩
  obtain ⟨hrefusals, hfinal⟩ :=
    run_of_isLasting (s := ⟨ts⟩) (Tables.ofText_eq_pure hread) hlasting hplace
  exact ⟨hrefusals, congrFun hfinal⟩

/-! ### A text with two tables and three calls -/

/-- A table with a primary key and one without columns, both with older names of fields. -/
def olderTables : Json :=
  .array
    [.object [("id", .string "1"), ("name", .string "items")],
     .object [("id", .string "2"), ("name", .string "users"), ("columns", .array
      [.object [("id", .string "k"), ("name", .string "id"), ("type", .string "int"),
        ("primaryKey", .bool true)]])]]

/-- The tables that are read from it. -/
def olderTablesRead : List Table :=
  [{ id := ⟨"1"⟩, name := "items" },
   { id := ⟨"2"⟩, name := "users"
     columns := [{ name := "id", type := .int, primaryKey := true, id := ⟨"k"⟩ }] }]

lemma ofText_olderTables (ids : IdSupply) :
    Tables.ofText olderTables.pretty ids = .ok (olderTablesRead, ids) := by
  have hwritable : IsWritable 4 olderTables := by
    refine .array ?_
    simp only [List.forall_mem_cons]
    refine ⟨.object ?_, .object ?_, fun _ h => nomatch h⟩
    · simp [IsWritable.string]
    · simp only [List.forall_mem_cons]
      refine ⟨.string _ _, .string _ _, .array ?_, fun _ h => nomatch h⟩
      refine List.forall_mem_singleton.mpr (.object ?_)
      simp [IsWritable.string, IsWritable.bool]
  rw [Tables.ofText, Read.ofText_of_isWrittenAs hwritable (by decide) .pretty]
  rfl

/-- The call that adds the older column, whose identity is then drawn. -/
def addingOlderColumn : Call where
  text := olderCommand.pretty
  ids := ⟨0⟩
  command := .addColumn ⟨"1"⟩ (olderColumnRead ⟨identityText 0⟩)
  left := ⟨1⟩
  reads := by
    rw [Command.ofText, Read.ofText_of_isWrittenAs isWritable_olderCommand (by decide) .pretty]
    rfl

/-- A call that adds a table. -/
def addingTable : Call where
  text := (Command.addTable " orders ").toJson.compact
  ids := ⟨7⟩
  command := .addTable " orders "
  left := ⟨7⟩
  reads := by
    have hwritable : IsWritable 2 (Command.addTable " orders ").toJson :=
      Command.isWritable_toJson trivial
    rw [Command.ofText, Read.ofText_of_isWrittenAs hwritable (by decide) .compact]
    rfl

/-- Calls of which the second one repeats the first one. -/
def repeatingCalls : List Call :=
  [addingOlderColumn, addingOlderColumn, addingTable]

/-- The host is told why the repeated call is refused, and the text has the new identities. -/
theorem run_simulates_repeatingCalls :
    refusals olderTables.pretty repeatingCalls
      = [none, some "Column 'owner' already exists in table 'items'", none]
    ∧ ∀ later, Tables.ofText (run olderTables.pretty repeatingCalls) later
      = .ok ((Schema.run ⟨olderTablesRead⟩ (repeatingCalls.map Call.entry)).tables, later) := by
  have hplace : ∀ n, ∀ t ∈ (Schema.run ⟨olderTablesRead⟩
      ((repeatingCalls.map Call.entry).take n)).tables, t.position.IsReadBack := by
    rintro (_ | _ | _ | n)
    · decide +kernel
    · decide +kernel
    · decide +kernel
    · rw [List.take_of_length_le (Nat.le_add_left 3 n)]
      decide +kernel
  obtain ⟨hrefusals, hfinal⟩ := run_simulates (ofText_olderTables ⟨0⟩) (by decide) (by decide)
    hplace
  refine ⟨hrefusals.trans ?_, hfinal⟩
  decide

end Host

end SchemaDesigner
