import TypedTree.Tree.Children

/-!
# Walks over trees

A cursor holds the items that are still to come and yields them one by one: a parent before its
children, after them, or level by level. Each item comes with its place in its parent; the root has
none. Every step makes a cursor lighter, so a walk ends.
-/

namespace TypedTree

/-- The order in which a walk yields the items of a tree. -/
inductive WalkOrder where
  | preOrder
  | postOrder
  | breadthFirst
deriving DecidableEq, Repr

/-- An item with its place in its parent. -/
abbrev Placed := Option TreeKey × Value

def placedChildren (c : Catalog) (item : Value) : List Placed :=
  (item.children c).map fun (key, child) => (some key, child)

/-- The state of a walk: the items still to come. In post-order an item is marked once its children
have been put in front of it. A walk level by level holds what is left of a level, and the items
found so far for the level below it, the last one first. -/
inductive Cursor where
  | preOrder (stack : List Placed)
  | postOrder (stack : List (Placed × Bool))
  | breadthFirst (level below : List Placed)

/-! ## Weights -/

/-- The sum of the sizes of items. -/
noncomputable def placedSize (items : List Placed) : Nat :=
  totalSize (items.map (·.2))

/-- The sum of the weights of post-order items: a marked item takes one more step. -/
noncomputable def markedSize : List (Placed × Bool) → Nat
  | [] => 0
  | (x, marked) :: stack => (if marked then 1 else 2 * sizeOf x.2) + markedSize stack

@[simp] theorem placedSize_nil : placedSize [] = 0 := by
  simp [placedSize]

@[simp] theorem placedSize_cons (x : Placed) (items : List Placed) :
    placedSize (x :: items) = sizeOf x.2 + placedSize items := by
  simp [placedSize]

@[simp] theorem placedSize_append (items rest : List Placed) :
    placedSize (items ++ rest) = placedSize items + placedSize rest := by
  simp [placedSize]

@[simp] theorem placedSize_reverse (items : List Placed) :
    placedSize items.reverse = placedSize items := by
  induction items with
  | nil => rfl
  | cons x items ih => simp [ih]; omega

theorem placedSize_children_lt (c : Catalog) (item : Value) :
    placedSize (placedChildren c item) < sizeOf item := by
  simpa [placedSize, placedChildren, Function.comp_def] using totalSize_children_lt c item

@[simp] theorem markedSize_cons (x : Placed) (marked : Bool) (stack : List (Placed × Bool)) :
    markedSize ((x, marked) :: stack) =
      (if marked then 1 else 2 * sizeOf x.2) + markedSize stack := rfl

@[simp] theorem markedSize_append (stack rest : List (Placed × Bool)) :
    markedSize (stack ++ rest) = markedSize stack + markedSize rest := by
  induction stack with
  | nil => simp [markedSize]
  | cons x stack ih =>
    obtain ⟨x, marked⟩ := x
    simp [ih]
    omega

theorem markedSize_unmarked (items : List Placed) :
    markedSize (items.map (·, false)) = 2 * placedSize items := by
  induction items with
  | nil => simp [markedSize, placedSize]
  | cons x items ih => simp [ih]; omega

/-! ## Steps -/

/-- Expands items until the first one is marked, and takes that one. -/
def popMarked? (c : Catalog) : List (Placed × Bool) → Option (Placed × List (Placed × Bool))
  | [] => none
  | (x, true) :: rest => some (x, rest)
  | (x, false) :: rest =>
    popMarked? c ((placedChildren c x.2).map (·, false) ++ (x, true) :: rest)
termination_by stack => markedSize stack
decreasing_by
  have := placedSize_children_lt c x.2
  simp [markedSize_unmarked]
  omega

theorem markedSize_popMarked {c : Catalog} {stack rest : List (Placed × Bool)} {x : Placed}
    (h : popMarked? c stack = some (x, rest)) : markedSize rest < markedSize stack := by
  fun_induction popMarked? c stack with
  | case1 => simp at h
  | case2 y rest' => simp_all
  | case3 y rest' ih =>
    have hlt := ih h
    have := placedSize_children_lt c y.2
    simp [markedSize_unmarked] at hlt ⊢
    omega

namespace Cursor

def start (order : WalkOrder) (root : Value) : Cursor :=
  match order with
  | .preOrder => .preOrder [(none, root)]
  | .postOrder => .postOrder [((none, root), false)]
  | .breadthFirst => .breadthFirst [(none, root)] []

/-- The next item, and the walk behind it. -/
def next? (c : Catalog) : Cursor → Option (Placed × Cursor)
  | .preOrder [] => none
  | .preOrder (x :: rest) => some (x, .preOrder (placedChildren c x.2 ++ rest))
  | .postOrder stack => (popMarked? c stack).map fun (x, rest) => (x, .postOrder rest)
  | .breadthFirst (x :: rest) below =>
    some (x, .breadthFirst rest ((placedChildren c x.2).reverse ++ below))
  | .breadthFirst [] below =>
    match below.reverse with
    | [] => none
    | x :: rest => some (x, .breadthFirst rest (placedChildren c x.2).reverse)

/-- A bound for the number of steps to come. -/
noncomputable def weight : Cursor → Nat
  | .preOrder stack => placedSize stack
  | .postOrder stack => markedSize stack
  | .breadthFirst level below => placedSize level + placedSize below

theorem weight_next {c : Catalog} {cursor next : Cursor} {x : Placed}
    (h : cursor.next? c = some (x, next)) : next.weight < cursor.weight := by
  match cursor with
  | .preOrder [] => simp [next?] at h
  | .preOrder (y :: rest) =>
    have := placedSize_children_lt c y.2
    simp only [next?, Option.some.injEq, Prod.mk.injEq] at h
    simp [← h.2, weight]
    omega
  | .postOrder stack =>
    simp only [next?, Option.map_eq_some_iff] at h
    obtain ⟨⟨y, rest⟩, hp, he⟩ := h
    cases he
    exact markedSize_popMarked hp
  | .breadthFirst (y :: rest) below =>
    have := placedSize_children_lt c y.2
    simp only [next?, Option.some.injEq, Prod.mk.injEq] at h
    simp [← h.2, weight]
    omega
  | .breadthFirst [] below =>
    simp only [next?] at h
    split at h
    · simp at h
    · next y rest hr =>
      have := placedSize_children_lt c y.2
      have hb : placedSize below = placedSize (y :: rest) := by rw [← hr, placedSize_reverse]
      simp only [Option.some.injEq, Prod.mk.injEq] at h
      simp [← h.2, weight, hb]
      omega

/-- All items still to come. -/
def toList (c : Catalog) (cursor : Cursor) : List Placed :=
  match _h : cursor.next? c with
  | none => []
  | some (x, next) => x :: next.toList c
termination_by cursor.weight
decreasing_by exact weight_next ‹_›

end Cursor

/-- The items of a tree in the given order, with their places. -/
def Value.walk (c : Catalog) (order : WalkOrder) (root : Value) : List Placed :=
  (Cursor.start order root).toList c

def Value.items (c : Catalog) (order : WalkOrder) (root : Value) : List Value :=
  (root.walk c order).map (·.2)

/-! ## Recursive orders -/

/-- An item followed by what is below each child in turn. -/
def Value.preOrder (c : Catalog) (key : Option TreeKey) (item : Value) : List Placed :=
  (key, item) :: (item.children c).attach.flatMap fun ⟨(k, child), _⟩ => child.preOrder c (some k)
termination_by item
decreasing_by exact sizeOf_lt_of_mem_children ‹_›

/-- What is below each child in turn, followed by the item. -/
def Value.postOrder (c : Catalog) (key : Option TreeKey) (item : Value) : List Placed :=
  ((item.children c).attach.flatMap fun ⟨(k, child), _⟩ => child.postOrder c (some k)) ++
    [(key, item)]
termination_by item
decreasing_by exact sizeOf_lt_of_mem_children ‹_›

/-- The items of a level followed by the levels below. -/
def levelOrder (c : Catalog) : List Placed → List Placed
  | [] => []
  | x :: rest => (x :: rest) ++ levelOrder c ((x :: rest).flatMap fun y => placedChildren c y.2)
termination_by level => placedSize level
decreasing_by
  have h : ∀ items : List Placed,
      placedSize (items.flatMap fun y => placedChildren c y.2) ≤ placedSize items := by
    intro items
    induction items with
    | nil => simp
    | cons y items ih =>
      have := placedSize_children_lt c y.2
      simp
      omega
  have := h rest
  have := placedSize_children_lt c x.2
  simp
  omega

end TypedTree
