import TypedTree.Construction.Basic
import TypedTree.Schema.Text
import TypedTree.Value.Order

/-!
# Ready-made hooks

A small stock of factories, converters and checks that scripts attach to declarations. Each is
plain data; a table numbers them, and the numbers are what schemas refer to.
-/

namespace TypedTree.Script

/-- Stock factories. -/
inductive Factory where
  | fixed (v : Value)
  /-- Counts on in a numbered counter. -/
  | counter (cell : Nat)
  /-- A new instance of a type, without arguments; nothing if there is none. -/
  | make (t : TypeId)

/-- Stock converters. -/
inductive Converter where
  | upper
  | wrapList
  | noneToZero
  | length
  | fail (message : String)

/-- Stock checks of fields. -/
inductive Check where
  | atLeast (n : Int64)
  | nonempty
  | describe
  | trace (label : String)
  | fail (message : String)

/-- Stock checks of instances. -/
inductive RootCheck where
  | less (a b : String)
  | label
  | trace (label : String)
  | fail (message : String)

/-- The hooks of all declarations, by number. -/
structure HookTable where
  factories : List Factory := []
  converters : List Converter := []
  checks : List Check := []
  rootChecks : List RootCheck := []

/-- The text with ASCII letters in uppercase. -/
def upperAscii (s : String) : String :=
  String.ofList (s.toList.map Char.toUpper)

def Converter.run (c : Catalog) (v : Value) : Converter → Except String Value
  | .upper =>
    match v with
    | .str s => .ok (.str (upperAscii s))
    | v => .error s!"cannot label {v.text c}"
  | .wrapList => .ok (.list [v])
  | .noneToZero => .ok (if v.isNone then .int 0 else v)
  | .length =>
    match v with
    | .str s => .ok (.int (Int64.ofNat s.length))
    | v => .error s!"not a string: {v.text c}"
  | .fail message => .error message

/-- Whether the value is a string, byte string or container without content. -/
def isEmptyValue : Value → Bool
  | .str s => s == ""
  | .bytes b => b.isEmpty
  | .tuple items | .list items | .set items => items.isEmpty
  | .map entries => entries.isEmpty
  | _ => false

def describeField (c : Catalog) (f : Field) : String :=
  joinTexts "|" [f.name, f.type.text c, f.kind.word, toString f.checks.length,
    toString f.flags.init]

def Check.run (c : Catalog) (f : Field) (v : Value) : Check → StateM State (Except String Unit)
  | .atLeast n =>
    return match v with
      | .int m => if m < n then .error s!"{f.name} must be at least {n.toInt}" else .ok ()
      | _ => .ok ()
  | .nonempty => return if isEmptyValue v then .error "must not be empty" else .ok ()
  | .describe => return .error (describeField c f)
  | .trace text => do
    modify fun s => s.write s!"{text}:{f.name}={v.text c}"
    return .ok ()
  | .fail message => return .error message

/-- The failure to see one field below another, if they are not so ordered. -/
def checkLess (c : Catalog) (r : Record) (a b : String) : Except String Unit := do
  let describe (e : InstanceError) := e.message c
  let x ← (r.get c a).mapError describe
  let y ← (r.get c b).mapError describe
  match ← (x.order c y).mapError describe with
  | .lt => .ok ()
  | _ => .error s!"{a} must be less than {b}"

/-- Carries out a check of an instance. -/
def RootCheck.run (c : Catalog) (r : Record) : RootCheck → StateM State (Except String Unit)
  | .less a b => return checkLess c r a b
  | .label => return .error ((r.label? c).getD "-" ++ " " ++ toString r.symbols?.isSome)
  | .trace text => do
    modify fun s => s.write s!"{text}:{r.text c}"
    return .ok ()
  | .fail message => return .error message

/-- The value of a counter, which goes on to the next one. -/
def countOn (cell : Nat) : StateM State Value := do
  let s ← get
  let n := s.memory.counters.getD cell 0
  set { s with memory := { s.memory with counters := s.memory.counters.set cell (n + 1) } }
  return .int n

/-- The hooks of a table, where factories may make instances of other types to the given depth. -/
def HookTable.hooksWithin (table : HookTable) : Nat → Hooks
  | 0 => {
      factory := fun _ _ => return .none
      converter := fun _ _ v => return .ok v
      check := fun _ _ _ _ => return .ok ()
      rootCheck := fun _ _ _ => return .ok () }
  | depth + 1 => {
      factory := fun hook c =>
        match table.factories[hook]? with
        | some (.fixed v) => return v
        | some (.counter cell) => countOn cell
        | some (.make t) => do
          match ← (construct (table.hooksWithin depth) c t []).run with
          | .ok r => return .record r
          | .error _ => return .none
        | none => return .none
      converter := fun hook c v =>
        return match table.converters[hook]? with
          | some converter => converter.run c v
          | none => .ok v
      check := fun hook c f v =>
        match table.checks[hook]? with
        | some check => check.run c f v
        | none => return .ok ()
      rootCheck := fun hook c r =>
        match table.rootChecks[hook]? with
        | some check => check.run c r
        | none => return .ok () }

/-- The hooks of a table. A factory makes instances only of types declared before it, so making is
nested less deeply than there are factories. -/
def HookTable.hooks (table : HookTable) : Hooks :=
  table.hooksWithin (table.factories.length + 1)

end TypedTree.Script
