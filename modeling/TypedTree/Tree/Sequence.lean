import TypedTree.Tree.Walk
import TypedTree.Validation.Basic
import TypedTree.Value.Equality

/-!
# Sequences

Chunks, strides and differences of sequences, and selections from the items of a tree.
-/

namespace TypedTree

variable {α : Type}

/-- What becomes of a last chunk that is too short. -/
inductive Tail (α : Type) where
  | keep
  | drop
  | pad (filler : α)

/-- The chunk that a short tail gives. -/
def Tail.finish (tail : Tail α) (size : Nat) (chunk : List α) : List (List α) :=
  match tail with
  | .keep => [chunk]
  | .drop => []
  | .pad filler => [chunk ++ List.replicate (size - chunk.length) filler]

/-- Consecutive chunks of `size + 1` elements. -/
def chunksOf (tail : Tail α) (size : Nat) : List α → List (List α)
  | [] => []
  | x :: xs =>
    let chunk := (x :: xs).take (size + 1)
    if chunk.length = size + 1 then chunk :: chunksOf tail size (xs.drop size)
    else tail.finish (size + 1) chunk
termination_by xs => xs.length
decreasing_by
  have := List.length_drop (i := size) (l := xs)
  simp only [List.length_cons]
  omega

/-- Every element whose position is a multiple of `step + 1`. -/
def everyNth (step : Nat) : List α → List α
  | [] => []
  | x :: xs => x :: everyNth step (xs.drop step)
termination_by xs => xs.length
decreasing_by
  have := List.length_drop (i := step) (l := xs)
  simp only [List.length_cons]
  omega

/-- Pairs of elements at the same place. Behind the end of the shorter sequence the filler takes
the place of its elements; without one the pairs end there. -/
def zipPadded (filler : Option α) : List α → List α → List (α × α)
  | x :: xs, y :: ys => (x, y) :: zipPadded filler xs ys
  | xs, [] =>
    match filler with
    | some d => xs.map (·, d)
    | none => []
  | [], ys =>
    match filler with
    | some d => ys.map (d, ·)
    | none => []

/-- The pairs of values at the same place that differ. -/
def differences (c : Catalog) (filler : Option Value) (xs ys : List Value) :
    List (Value × Value) :=
  (zipPadded filler xs ys).filter fun (x, y) => !x.eqv c y

/-! ## Selections -/

def recordsOf (items : List Value) : List Record :=
  items.filterMap Value.asRecord?

def itemsOfType (c : Catalog) (t : Ty) (items : List Value) : List Value :=
  items.filter (t.accepts c)

/-- The records among the items that are instances of a type. -/
def instancesOf (c : Catalog) (t : TypeId) (items : List Value) : List Record :=
  (recordsOf items).filter fun r => r.isInstance c t

/-- The values of a field, of every record among the items that has it. -/
def pluck (c : Catalog) (field : String) (items : List Value) : List Value :=
  (recordsOf items).filterMap fun r => r.get? c field

end TypedTree
