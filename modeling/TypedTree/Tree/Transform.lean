import TypedTree.Construction.Basic
import TypedTree.Value.Collection

/-!
# Transformation

A transformer rebuilds a tree from below. It may decide on any value before looking into it, on any
node before rebuilding it, and on any node once it is rebuilt; where it does not, containers are
rebuilt from their transformed elements and nodes are constructed again from their transformed
children. A value that is removed leaves its container; a removed child leaves its field to the
default. A rebuilt node has a new number and keeps its annotations.
-/

namespace TypedTree

/-- What a transformer decides on a value. -/
inductive Decision where
  | proceed
  | remove
  | replace (v : Value)

/-- The decisions of a transformer. -/
structure Transformer where
  value : Value → Decision := fun _ => .proceed
  node : Record → Decision := fun _ => .proceed
  rebuilt : Record → Option Value := fun r => some (.record r)

/-- Adds a transformed element to those of a set. -/
def addTransformed (c : Catalog) (items : List Value) : Option Value → Construct (List Value)
  | none => pure items
  | some v =>
    match v.ensureHashable c with
    | .error e => throw e
    | .ok () => pure (Value.insertElement c items v)

/-- Adds a transformed value to the entries of a map, under the key that it had. -/
def putTransformed (c : Catalog) (key : Value) (entries : List (Value × Value)) :
    Option Value → List (Value × Value)
  | none => entries
  | some v => Value.insertEntry c key v entries

/-- Constructs a node again, from the given arguments, and gives it the dynamic annotations of the
one it was made from. -/
def reconstruct (h : Hooks) (c : Catalog) (r : Record) (arguments : List (String × Value)) :
    Construct Record := do
  let rebuilt ← construct h c r.type arguments
  return if rebuilt.isNode then { rebuilt with annotations := r.annotations } else rebuilt

namespace Transformer

mutual

/-- Transforms a value; nothing is left of a removed one. -/
def transform (h : Hooks) (c : Catalog) (w : Transformer) (v : Value) : Construct (Option Value) :=
  match w.value v with
  | .remove => pure none
  | .replace v => pure (some v)
  | .proceed =>
    match v with
    | .record r =>
      if r.isNode then
        match w.node r with
        | .remove => pure none
        | .replace v => pure (some v)
        | .proceed => do
          let arguments ← transformFields h c w r
          return w.rebuilt (← reconstruct h c r arguments)
      else pure (some (.record r))
    | .list items => return some (.list (← transformAll h c w items))
    | .tuple items => return some (.tuple (← transformAll h c w items))
    | .set items => return some (.set (← transformElements h c w [] items))
    | .map entries => return some (.map (← transformEntries h c w [] entries))
    | v => pure (some v)
termination_by structural v

/-- The arguments for constructing a node again. -/
def transformFields (h : Hooks) (c : Catalog) (w : Transformer) :
    Record → Construct (List (String × Value))
  | ⟨type, values, _, _⟩ => transformValues h c w (c.schema type).fields values
termination_by structural r => r

/-- The arguments from the values of fields: children are transformed, annotations and internal
fields are kept, and fields that construction does not accept are left out. -/
def transformValues (h : Hooks) (c : Catalog) (w : Transformer) (fields : List Field) :
    List Value → Construct (List (String × Value))
  | [] => return []
  | v :: vs =>
    match fields with
    | [] => return []
    | f :: fs =>
      if f.flags.init then
        if f.kind = .child then do
          let transformed ← transform h c w v
          let rest ← transformValues h c w fs vs
          return match transformed with
            | some v => (f.name, v) :: rest
            | none => rest
        else do
          let rest ← transformValues h c w fs vs
          return (f.name, v) :: rest
      else transformValues h c w fs vs
termination_by structural vs => vs

/-- Transforms the elements of a sequence. -/
def transformAll (h : Hooks) (c : Catalog) (w : Transformer) : List Value → Construct (List Value)
  | [] => return []
  | v :: vs => do
    let transformed ← transform h c w v
    let rest ← transformAll h c w vs
    return match transformed with
      | some v => v :: rest
      | none => rest
termination_by structural vs => vs

/-- Transforms the elements of a set and adds them to those given. -/
def transformElements (h : Hooks) (c : Catalog) (w : Transformer) (items : List Value) :
    List Value → Construct (List Value)
  | [] => return items
  | v :: vs => do
    let items ← addTransformed c items (← transform h c w v)
    transformElements h c w items vs
termination_by structural vs => vs

/-- Transforms the values of a map and adds them to the entries given; keys are kept. -/
def transformEntries (h : Hooks) (c : Catalog) (w : Transformer) (entries : List (Value × Value)) :
    List (Value × Value) → Construct (List (Value × Value))
  | [] => return entries
  | (k, v) :: es => do
    let transformed ← transform h c w v
    transformEntries h c w (putTransformed c k entries transformed) es
termination_by structural es => es

end

end Transformer

end TypedTree
