/-
What a text says as JSON, up to the first fault.

* `Document`, `Items`, `Members`: a value with its faults in place, so that a reader that goes
  through it in order meets the first one;
* `Document.keepFault?`: the first fault for a reader that keeps the whole value;
* `Document.skipFault?`: the first fault for a reader that passes over the value;
* `Document.ofJson`: a value as the document that writes it.

A reader that passes over a value does not mind how large its numbers are, how its surrogates are
paired and how deep its brackets are, and it names some faults differently.
-/
import SchemaDesigner.Json.Basic
import SchemaDesigner.Json.Fault

namespace SchemaDesigner.Json

mutual

/-- A value of a text. -/
inductive Document
  | null
  | bool (b : Bool)
  /-- A number, unless it is out of range. -/
  | number (value : Option Number)
  /-- A text, unless its surrogates are not paired. -/
  | string (value : Except Fault String)
  | array (items : Items)
  | object (members : Members)
  /-- A value whose bracket is nested too deep. -/
  | deep (inner : Document)
  /-- The fault that a reader meets here, and that of one that passes over. -/
  | broken (kept skipped : Fault)

/-- The items of an array. -/
inductive Items
  | close
  | stop (kept skipped : Fault)
  | item (value : Document) (rest : Items)

/-- The members of an object. -/
inductive Members
  | close
  | stop (kept skipped : Fault)
  | member (key : Except Fault String) (value : Document) (rest : Members)

end

/-- The error of a result, if it is one. -/
def error? {ε α : Type} : Except ε α → Option ε
  | .ok _ => none
  | .error e => some e

/-! ### Faults for a reader that keeps the value -/

mutual

/-- The first fault for a reader that keeps the value. -/
def Document.keepFault? : Document → Option Fault
  | .null | .bool _ => none
  | .number value => if value.isSome then none else some .numberOutOfRange
  | .string value => error? value
  | .array items => items.keepFault?
  | .object members => members.keepFault?
  | .deep _ => some .tooDeep
  | .broken kept _ => some kept

/-- The first fault for a reader that keeps the items. -/
def Items.keepFault? : Items → Option Fault
  | .close => none
  | .stop kept _ => some kept
  | .item value rest => value.keepFault?.or rest.keepFault?

/-- The first fault for a reader that keeps the members. -/
def Members.keepFault? : Members → Option Fault
  | .close => none
  | .stop kept _ => some kept
  | .member key value rest => ((error? key).or value.keepFault?).or rest.keepFault?

end

/-! ### Faults for a reader that passes over the value -/

mutual

/-- The first fault for a reader that passes over the value. -/
def Document.skipFault? : Document → Option Fault
  | .null | .bool _ | .number _ | .string _ => none
  | .array items => items.skipFault?
  | .object members => members.skipFault?
  | .deep inner => inner.skipFault?
  | .broken _ skipped => some skipped

/-- The first fault for a reader that passes over the items. -/
def Items.skipFault? : Items → Option Fault
  | .close => none
  | .stop _ skipped => some skipped
  | .item value rest => value.skipFault?.or rest.skipFault?

/-- The first fault for a reader that passes over the members. -/
def Members.skipFault? : Members → Option Fault
  | .close => none
  | .stop _ skipped => some skipped
  | .member _ value rest => value.skipFault?.or rest.skipFault?

end

/-! ### Written values -/

mutual

/-- A value as the document that writes it. -/
def Document.ofJson : Json → Document
  | .null => .null
  | .bool b => .bool b
  | .number x => .number (some (.float x))
  | .string s => .string (.ok s)
  | .array items => .array (Items.ofJson items)
  | .object members => .object (Members.ofJson members)

/-- Values as the items of an array. -/
def Items.ofJson : List Json → Items
  | [] => .close
  | v :: vs => .item (Document.ofJson v) (Items.ofJson vs)

/-- Values with keys as the members of an object. -/
def Members.ofJson : List (String × Json) → Members
  | [] => .close
  | (k, v) :: ms => .member (.ok k) (Document.ofJson v) (Members.ofJson ms)

end

end SchemaDesigner.Json
