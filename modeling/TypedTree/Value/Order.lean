import TypedTree.Record.Error

/-!
# Ordering of values

Values of one kind are ordered, numbers also across the two kinds of numbers, where the integer is
first rounded to the nearest floating-point number. Tuples and lists are ordered by their first
difference and then by length, records of one ordered type by the fields that take part in
ordering. Everything else cannot be ordered.
-/

namespace TypedTree

/-- Order of two byte strings: by the first difference, then by length. -/
def compareBytes : List UInt8 → List UInt8 → Ordering
  | [], [] => .eq
  | [], _ :: _ => .lt
  | _ :: _, [] => .gt
  | a :: as, b :: bs => (compare a.toNat b.toNat).then (compareBytes as bs)

/-- The order of two numbers, or the failure to order the values they come from. -/
def compareNumbers (a b : Value) (x y : Binary64) : Except InstanceError Ordering :=
  match x.compare? y with
  | some o => .ok o
  | none => .error (.unorderedValues a b)

mutual

def Value.order (c : Catalog) : Value → Value → Except InstanceError Ordering
  | .none, .none => .ok .eq
  | .bool a, .bool b => .ok (compare a b)
  | .int a, .int b => .ok (compare a.toInt b.toInt)
  | .float x, .float y => compareNumbers (.float x) (.float y) x y
  | .int n, .float y => compareNumbers (.int n) (.float y) (.ofInt n.toInt) y
  | .float x, .int n => compareNumbers (.float x) (.int n) x (.ofInt n.toInt)
  | .str a, .str b => .ok (compare a b)
  | .bytes a, .bytes b => .ok (compareBytes a b)
  | .member a, .member b =>
    if a.enum = b.enum then .ok (compare a.index b.index)
    else .error (.unorderedValues (.member a) (.member b))
  | .tuple xs, .tuple ys => Value.orderAll c xs ys
  | .list xs, .list ys => Value.orderAll c xs ys
  | .record r, .record s => r.order c s
  | a, b => .error (.unorderedValues a b)
termination_by structural a => a

def Record.order (c : Catalog) : Record → Record → Except InstanceError Ordering
  | ⟨type, values, _, _⟩, s =>
    if type = s.type ∧ (c.schema type).flags.ordered then
      Value.orderFields c (c.schema type).fields values s.values
    else .error (.unorderedRecords type s.type)
termination_by structural r => r

def Value.orderAll (c : Catalog) : List Value → List Value → Except InstanceError Ordering
  | [], [] => .ok .eq
  | [], _ :: _ => .ok .lt
  | _ :: _, [] => .ok .gt
  | x :: xs, y :: ys =>
    match x.order c y with
    | .ok .eq => Value.orderAll c xs ys
    | other => other
termination_by structural xs => xs

def Value.orderFields (c : Catalog) (fields : List Field) :
    List Value → List Value → Except InstanceError Ordering
  | x :: xs, ys =>
    match fields, ys with
    | f :: fs, y :: ys =>
      if f.flags.order then
        match x.order c y with
        | .ok .eq => Value.orderFields c fs xs ys
        | other => other
      else Value.orderFields c fs xs ys
    | _, _ => .ok .eq
  | [], _ => .ok .eq
termination_by structural xs => xs

end

end TypedTree
