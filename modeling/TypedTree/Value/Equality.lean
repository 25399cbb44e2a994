import TypedTree.Schema.Basic

/-!
# Equality and hashing

Values are equal when they have the same shape and equal parts. Sets and maps are compared
regardless of order, floating-point numbers by their bits, and records by their type and the
fields that take part in equality. The data that a value feeds to a hash is coarser: a set or map
contributes its size only, a record its type and the fields that take part in hashing.
-/

namespace TypedTree

mutual

def Value.eqv (c : Catalog) : Value → Value → Bool
  | .none, .none => true
  | .bool a, .bool b => a == b
  | .int a, .int b => a == b
  | .float a, .float b => a == b
  | .str a, .str b => a == b
  | .bytes a, .bytes b => a == b
  | .member a, .member b => a == b
  | .tuple xs, .tuple ys => Value.eqvAll c xs ys
  | .list xs, .list ys => Value.eqvAll c xs ys
  | .set xs, .set ys => xs.length == ys.length && Value.subset c xs ys
  | .map xs, .map ys => xs.length == ys.length && Value.subsetEntries c xs ys
  | .record r, .record s => r.eqv c s
  | _, _ => false
termination_by structural a => a

def Record.eqv (c : Catalog) : Record → Record → Bool
  | ⟨type, values, _, _⟩, s =>
    type == s.type && Value.eqvFields c (c.schema type).fields values s.values
termination_by structural r => r

/-- Whether two sequences are equal place by place. -/
def Value.eqvAll (c : Catalog) : List Value → List Value → Bool
  | [], [] => true
  | x :: xs, y :: ys => x.eqv c y && Value.eqvAll c xs ys
  | _, _ => false
termination_by structural xs => xs

/-- Whether the values of the fields that take part in equality are equal. -/
def Value.eqvFields (c : Catalog) (fields : List Field) : List Value → List Value → Bool
  | x :: xs, ys =>
    match fields, ys with
    | f :: fs, y :: ys => (!f.flags.eq || x.eqv c y) && Value.eqvFields c fs xs ys
    | _, _ => true
  | [], _ => true
termination_by structural xs => xs

def Value.subset (c : Catalog) : List Value → List Value → Bool
  | [], _ => true
  | x :: xs, ys => ys.any (fun y => x.eqv c y) && Value.subset c xs ys
termination_by structural xs => xs

/-- Whether each entry's key is among the others' keys, with an equal value. -/
def Value.subsetEntries (c : Catalog) : List (Value × Value) → List (Value × Value) → Bool
  | [], _ => true
  | (k, v) :: es, others =>
    (match others.find? (fun e => k.eqv c e.1) with
      | some e => v.eqv c e.2
      | none => false) &&
      Value.subsetEntries c es others
termination_by structural es => es

end

/-! ## Hashing -/

/-- A piece of data fed to a hash. -/
inductive HashToken where
  | none
  | bool (b : Bool)
  | int (n : Int64)
  | float (x : Binary64)
  | str (s : String)
  | bytes (b : List UInt8)
  | member (m : EnumMember)
  | tuple (size : Nat)
  | list (size : Nat)
  | set (size : Nat)
  | map (size : Nat)
  | record (t : TypeId)
deriving DecidableEq, Repr

mutual

/-- What is fed to a hash when a value is fed to it in front of `rest`. -/
def Value.feed (c : Catalog) : Value → List HashToken → List HashToken
  | .none, rest => .none :: rest
  | .bool b, rest => .bool b :: rest
  | .int n, rest => .int n :: rest
  | .float x, rest => .float x :: rest
  | .str s, rest => .str s :: rest
  | .bytes b, rest => .bytes b :: rest
  | .member m, rest => .member m :: rest
  | .tuple items, rest => .tuple items.length :: Value.feedAll c items rest
  | .list items, rest => .list items.length :: Value.feedAll c items rest
  | .set items, rest => .set items.length :: rest
  | .map entries, rest => .map entries.length :: rest
  | .record r, rest => r.feed c rest
termination_by structural v => v

/-- What is fed to a hash when a record is fed to it in front of `rest`. -/
def Record.feed (c : Catalog) : Record → List HashToken → List HashToken
  | ⟨type, values, _, _⟩, rest =>
    .record type :: Value.feedFields c (c.schema type).fields values rest
termination_by structural r => r

/-- What is fed to a hash when several values are fed to it in order. -/
def Value.feedAll (c : Catalog) : List Value → List HashToken → List HashToken
  | [], rest => rest
  | v :: vs, rest => v.feed c (Value.feedAll c vs rest)
termination_by structural vs => vs

/-- What is fed to a hash when the fields that take part in hashing are fed to it. -/
def Value.feedFields (c : Catalog) (fields : List Field) :
    List Value → List HashToken → List HashToken
  | v :: vs, rest =>
    match fields with
    | f :: fs =>
      let others := Value.feedFields c fs vs rest
      if f.flags.hash then v.feed c others else others
    | [] => rest
  | [], rest => rest
termination_by structural vs => vs

end

def Value.hashData (c : Catalog) (v : Value) : List HashToken :=
  v.feed c []

/-- Whether two values feed the same data to a hash. -/
def Value.sameHash (c : Catalog) (a b : Value) : Bool :=
  a.hashData c == b.hashData c

mutual

/-- Whether the value may be an element of a set or a key of a map. -/
def Value.isHashable (c : Catalog) : Value → Bool
  | .list _ | .set _ | .map _ => false
  | .tuple items => Value.allHashable c items
  | .record r => (r.schema c).flags.hashable
  | _ => true
termination_by structural v => v

/-- Whether all the values may be elements of a set. -/
def Value.allHashable (c : Catalog) : List Value → Bool
  | [] => true
  | v :: vs => v.isHashable c && Value.allHashable c vs
termination_by structural vs => vs

end

end TypedTree
