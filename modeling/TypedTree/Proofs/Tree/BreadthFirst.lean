import Mathlib.Data.List.Perm.Basic
import TypedTree.Proofs.Tree.DepthFirst

/-! # Walks level by level -/

namespace TypedTree

variable {c : Catalog} {items : List Placed} {depth : Nat}

/-! ### Levels -/

/-- The children of the items of a level, in the order of that level. -/
def nextLevel (c : Catalog) (items : List Placed) : List Placed :=
  items.flatMap fun x => placedChildren c x.2

/-- The level at a depth below some items. -/
def levelBelow (c : Catalog) (items : List Placed) : Nat → List Placed
  | 0 => items
  | depth + 1 => nextLevel c (levelBelow c items depth)

theorem levelBelow_succ (c : Catalog) (items : List Placed) (depth : Nat) :
    levelBelow c items (depth + 1) = levelBelow c (nextLevel c items) depth := by
  induction depth with
  | zero => rfl
  | succ depth ih => rw [levelBelow, ih, levelBelow]

/-- An item at a depth stands at a position of that length. -/
theorem mem_levelBelow_iff {x : Placed} : x ∈ levelBelow c items depth ↔
    ∃ y ∈ items, ∃ p : Position, p.length = depth ∧ itemAt? c y p = some x := by
  induction depth generalizing items with
  | zero =>
    constructor
    · exact fun hx => ⟨x, hx, [], rfl, rfl⟩
    · rintro ⟨y, hy, p, hp, hx⟩
      obtain rfl := List.length_eq_zero_iff.mp hp
      exact Option.some.inj hx ▸ hy
  | succ depth ih =>
    rw [levelBelow_succ, ih]
    constructor
    · rintro ⟨child, hm, p, rfl, hx⟩
      obtain ⟨y, hy, hm⟩ := List.mem_flatMap.mp hm
      obtain ⟨i, hi⟩ := List.mem_iff_getElem?.mp hm
      exact ⟨y, hy, i :: p, rfl, by rw [itemAt?, hi, Option.bind_some, hx]⟩
    · rintro ⟨y, hy, p, hp, hx⟩
      obtain ⟨i, p, rfl⟩ := List.exists_of_length_succ p hp
      obtain ⟨child, hi, hx⟩ := Option.bind_eq_some_iff.mp hx
      exact ⟨child, List.mem_flatMap.mpr ⟨y, hy, List.mem_of_getElem? hi⟩, p,
        Nat.succ.inj hp, hx⟩

/-! ### The last level -/

theorem placedSize_nextLevel_le (c : Catalog) (items : List Placed) :
    placedSize (nextLevel c items) + items.length ≤ placedSize items := by
  induction items with
  | nil => simp [nextLevel]
  | cons x items ih =>
    have hx := placedSize_children_lt c x.2
    rw [nextLevel] at ih
    rw [nextLevel, List.flatMap_cons, placedSize_append, placedSize_cons, List.length_cons]
    omega

/-- Each level is smaller than the one above it, as long as there is one. -/
theorem levelBelow_eq_nil (h : placedSize items ≤ depth) : levelBelow c items depth = [] := by
  induction depth generalizing items with
  | zero =>
    have hlength := placedSize_nextLevel_le c items
    exact List.length_eq_zero_iff.mp (by rw [levelBelow]; omega)
  | succ depth ih =>
    have hlength := placedSize_nextLevel_le c items
    rw [levelBelow_succ]
    cases items with
    | nil => exact ih (by simp [nextLevel])
    | cons x items =>
      rw [List.length_cons] at hlength
      exact ih (by omega)

theorem levelOrder_eq (c : Catalog) (items : List Placed) :
    levelOrder c items = items ++ levelOrder c (nextLevel c items) := by
  cases items with
  | nil => simp [levelOrder, nextLevel]
  | cons x items => rw [levelOrder, nextLevel]

/-- The levels down to an empty one, one after the other. -/
theorem levelOrder_eq_flatMap (h : levelBelow c items depth = []) :
    levelOrder c items = (List.range depth).flatMap (levelBelow c items) := by
  induction depth generalizing items with
  | zero =>
    rw [levelBelow] at h
    rw [h, levelOrder]
    rfl
  | succ depth ih =>
    have hbelow : levelBelow c items ∘ Nat.succ = levelBelow c (nextLevel c items) :=
      funext (levelBelow_succ c items)
    rw [levelBelow_succ] at h
    rw [levelOrder_eq, ih h, List.range_succ_eq_map, List.flatMap_cons, List.flatMap_map, ← hbelow]
    rfl

/-! ### The queue -/

/-- The two lists of a cursor make one queue: an item leaves it in front, and the children of the
item join it at the end. -/
theorem next?_breadthFirst {level below rest : List Placed} {x : Placed}
    (h : level ++ below.reverse = x :: rest) :
    ∃ level' below', (Cursor.breadthFirst level below).next? c =
      some (x, .breadthFirst level' below') ∧
        level' ++ below'.reverse = rest ++ placedChildren c x.2 := by
  cases level with
  | nil =>
    rw [List.nil_append] at h
    exact ⟨rest, (placedChildren c x.2).reverse, by rw [Cursor.next?, h], by simp⟩
  | cons y level =>
    obtain ⟨rfl, rfl⟩ := List.cons.inj h
    exact ⟨level, (placedChildren c y.2).reverse ++ below, rfl, by simp⟩

theorem next?_breadthFirst_eq_none {level below : List Placed} (h : level ++ below.reverse = []) :
    (Cursor.breadthFirst level below).next? c = none := by
  obtain ⟨rfl, hb⟩ := List.append_eq_nil_iff.mp h
  rw [Cursor.next?, hb]

/-- The queue holds what is left of a level, and behind it the items of the level below that were
found so far. It yields the rest of both levels and then the levels further down. -/
theorem yields_breadthFirst (c : Catalog) (level below left found : List Placed)
    (h : level ++ below.reverse = left ++ found) :
    (Cursor.breadthFirst level below).Yields c
      (left ++ levelOrder c (found ++ nextLevel c left)) := by
  match left, found with
  | x :: left, found =>
    have hx : level ++ below.reverse = x :: (left ++ found) := h
    obtain ⟨level', below', hnext, hqueue⟩ := next?_breadthFirst (c := c) hx
    rw [List.append_assoc] at hqueue
    have ih := yields_breadthFirst c level' below' left (found ++ placedChildren c x.2) hqueue
    rw [List.append_assoc] at ih
    exact .next hnext ih
  | [], [] =>
    rw [nextLevel, List.flatMap_nil, List.append_nil, levelOrder]
    exact .done (next?_breadthFirst_eq_none h)
  | [], x :: found =>
    obtain ⟨level', below', hnext, hqueue⟩ := next?_breadthFirst (c := c) h
    have ih := yields_breadthFirst c level' below' found (placedChildren c x.2) hqueue
    rw [nextLevel, List.flatMap_nil, List.append_nil, levelOrder_eq]
    exact .next hnext ih
termination_by placedSize left + placedSize found
decreasing_by
  all_goals
    have := placedSize_children_lt c x.2
    simp
    omega

/-! ### Pre-order and levels -/

/-- Both list what is below some items: the items first and then what is below their children, or
each item with what is below its own children. -/
theorem levelOrder_perm (c : Catalog) (items : List Placed) :
    (levelOrder c items).Perm (items.flatMap fun x => x.2.preOrder c x.1) := by
  fun_induction levelOrder c items with
  | case1 => exact .refl _
  | case2 x rest ih =>
    generalize x :: rest = items at ih ⊢
    calc
      (items ++ levelOrder c (items.flatMap fun y => placedChildren c y.2)).Perm
          (items ++ (items.flatMap fun y => placedChildren c y.2).flatMap
            fun y => y.2.preOrder c y.1) := ih.append_left items
      _ = items.flatMap (fun y => [y]) ++ items.flatMap
            (fun y => (placedChildren c y.2).flatMap fun z => z.2.preOrder c z.1) := by
        rw [List.flatMap_assoc, List.flatMap_singleton']
      List.Perm _ (items.flatMap fun y =>
          [y] ++ (placedChildren c y.2).flatMap fun z => z.2.preOrder c z.1) :=
        List.flatMap_append_perm items _ _
      _ = items.flatMap fun y => y.2.preOrder c y.1 :=
        List.flatMap_congr fun y _ => (Value.preOrder_eq c y.1 y.2).symm

/-! ### The walk -/

/-- Asked again and again, the breadth-first cursor gives the items at depth 0, 1, 2, … until a
level is empty, as are all further down. These are the items that a walk in pre-order gives. -/
theorem breadthFirst_walk (c : Catalog) (root : Value) :
    ∃ depth, (∀ d, depth ≤ d → levelBelow c [(none, root)] d = []) ∧
      (Cursor.start .breadthFirst root).Yields c
        ((List.range depth).flatMap (levelBelow c [(none, root)])) ∧
      ((List.range depth).flatMap (levelBelow c [(none, root)])).Perm (root.preOrder c none) ∧
      ∀ d x, x ∈ levelBelow c [(none, root)] d ↔
        ∃ p : Position, p.length = d ∧ itemAt? c (none, root) p = some x := by
  have hnil : ∀ d, placedSize [(none, root)] ≤ d → levelBelow c [(none, root)] d = [] :=
    fun d hd => levelBelow_eq_nil hd
  refine ⟨placedSize [(none, root)], hnil, ?_, ?_, ?_⟩
  · rw [← levelOrder_eq_flatMap (hnil _ (Nat.le_refl _)), levelOrder_eq]
    exact yields_breadthFirst c [(none, root)] [] [(none, root)] [] rfl
  · rw [← levelOrder_eq_flatMap (hnil _ (Nat.le_refl _))]
    have hperm := levelOrder_perm c [(none, root)]
    rwa [List.flatMap_singleton] at hperm
  · intro d x
    rw [mem_levelBelow_iff]
    simp

end TypedTree
