import TypedTree.Record.Error
import TypedTree.Value.Equality

/-!
# Sets and maps

Building sets and maps from their parts. Elements and keys have to be hashable. A set keeps the
first of equal elements; a map keeps the first of equal keys, at its place, with the last value.
-/

namespace TypedTree.Value

/-- Fails unless the value may be an element of a set or a key of a map. -/
def ensureHashable (c : Catalog) (v : Value) : Except InstanceError Unit :=
  if v.isHashable c then .ok () else .error (.unhashable v)

/-- Adds an element behind the others unless an equal one is there. -/
def insertElement (c : Catalog) (items : List Value) (v : Value) : List Value :=
  if items.any (fun item => item.eqv c v) then items else items ++ [v]

/-- Replaces the value of an equal key, or adds the entry behind the others. -/
def insertEntry (c : Catalog) (key value : Value) :
    List (Value × Value) → List (Value × Value)
  | [] => [(key, value)]
  | (k, v) :: es => if k.eqv c key then (k, value) :: es else (k, v) :: insertEntry c key value es

/-- Adds elements to those of a set. -/
def addElements (c : Catalog) (items : List Value) : List Value → Except InstanceError (List Value)
  | [] => .ok items
  | v :: vs => do
    v.ensureHashable c
    addElements c (insertElement c items v) vs

/-- Adds entries to those of a map. -/
def addEntries (c : Catalog) (entries : List (Value × Value)) :
    List (Value × Value) → Except InstanceError (List (Value × Value))
  | [] => .ok entries
  | (k, v) :: es => do
    k.ensureHashable c
    addEntries c (insertEntry c k v entries) es

def ofElements (c : Catalog) (items : List Value) : Except InstanceError Value :=
  (addElements c [] items).map .set

def ofEntries (c : Catalog) (entries : List (Value × Value)) : Except InstanceError Value :=
  (addEntries c [] entries).map .map

end TypedTree.Value
