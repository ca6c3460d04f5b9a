/-
The course of a sequence of commands: the changes that are accepted, and the schemas in between.

* `Schema.accepted`: the accepted commands, each with the schema that it changes;
* `Schema.forall_run_take_cons`: the schemas along a sequence, by its first command;
* `Schema.forall_run_take_iff_of_admits`: a property that an accepted command keeps just when it is
  harmless holds all along if and only if all accepted commands are harmless;
* `Schema.forall_run_take_iff`: the same where new tables get fresh identities.
-/
import SchemaDesigner.Proofs.Schema.WellFormed

namespace SchemaDesigner.Schema

/-- The accepted commands, each with the schema that it changes. -/
def accepted : Schema → List (TableId × Command) → List (Schema × Command)
  | _, [] => []
  | s, (fresh, command) :: rest =>
    match s.apply fresh command with
    | .ok next => (s, command) :: next.accepted rest
    | .error _ => s.accepted rest

section Along

variable {P : Schema → Prop} {s : Schema} {commands : List (TableId × Command)}

/-- The schemas along a sequence are the first one and those that follow its first command. -/
lemma forall_run_take_cons {entry : TableId × Command} :
    (∀ n, P (s.run ((entry :: commands).take n)))
      ↔ P s ∧ ∀ n, P ((s.step entry.1 entry.2).run (commands.take n)) := by
  constructor
  · exact fun h => ⟨h 0, fun n => h (n + 1)⟩
  · rintro ⟨hs, hrest⟩ n
    cases n with
    | zero => exact hs
    | succ n => exact hrest n

/-- Suppose that what `Admits` a sequence of commands on a schema goes on to admit the rest of it,
and that each accepted command then keeps a property just when it is not `Harmful`. Then a schema
with the property has it all along if and only if no accepted command is harmful. -/
theorem forall_run_take_iff_of_admits (Admits : Schema → List (TableId × Command) → Prop)
    {Harmful : Schema → Command → Prop}
    (hrest : ∀ s fresh command rest, Admits s ((fresh, command) :: rest) →
      Admits (s.step fresh command) rest)
    (hstep : ∀ s fresh command rest s', Admits s ((fresh, command) :: rest) → P s →
      s.apply fresh command = .ok s' → (P s' ↔ ¬Harmful s command))
    (h : Admits s commands) (hp : P s) :
    (∀ n, P (s.run (commands.take n)))
      ↔ ∀ change ∈ s.accepted commands, ¬Harmful change.1 change.2 := by
  induction commands generalizing s with
  | nil => exact iff_of_true (fun n => by rwa [List.take_nil]) fun _ h => absurd h List.not_mem_nil
  | cons entry rest ih =>
    obtain ⟨fresh, command⟩ := entry
    have hadmits := hrest s fresh command rest h
    rw [forall_run_take_cons, accepted]
    dsimp only
    rw [step] at hadmits ⊢
    cases happly : s.apply fresh command with
    | error e =>
      rw [happly] at hadmits
      exact (and_iff_right hp).trans (ih hadmits hp)
    | ok next =>
      rw [happly] at hadmits
      have hkept := hstep s fresh command rest next h hp happly
      rw [List.forall_mem_cons, ← hkept, and_iff_right hp]
      constructor
      · exact fun h => ⟨h 0, (ih hadmits (h 0)).mp h⟩
      · exact fun h => (ih hadmits h.1).mpr h.2

/-- Suppose that each accepted command keeps a property just when it is not `Harmful`, as long as
what `Holds` of all schemas is kept as well. Then a schema with the property has it all along if and
only if no accepted command is harmful. -/
theorem forall_run_take_iff {Holds : Schema → Prop} {Harmful : Schema → Command → Prop}
    (hholds : ∀ s fresh command s', Holds s → (command.AddsTable → ∀ t ∈ s.tables, t.id ≠ fresh) →
      s.apply fresh command = .ok s' → Holds s')
    (hstep : ∀ s fresh command s', Holds s → Holds s' → P s → s.apply fresh command = .ok s' →
      (P s' ↔ ¬Harmful s command))
    (hfresh : s.DrawsFresh commands) (hs : Holds s) (hp : P s) :
    (∀ n, P (s.run (commands.take n)))
      ↔ ∀ change ∈ s.accepted commands, ¬Harmful change.1 change.2 := by
  refine forall_run_take_iff_of_admits (fun s commands => s.DrawsFresh commands ∧ Holds s) ?_ ?_
    ⟨hfresh, hs⟩ hp
  · rintro s fresh command rest ⟨⟨hnew, hrest⟩, hs⟩
    refine ⟨hrest, ?_⟩
    rw [step]
    cases happly : s.apply fresh command with
    | error e => exact hs
    | ok next => exact hholds s fresh command next hs hnew happly
  · rintro s fresh command rest s' ⟨⟨hnew, -⟩, hs⟩ hp happly
    exact hstep s fresh command s' hs (hholds s fresh command s' hs hnew happly) hp happly

end Along

end SchemaDesigner.Schema
