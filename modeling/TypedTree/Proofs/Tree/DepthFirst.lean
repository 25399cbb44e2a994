import Mathlib.Data.List.Basic
import Mathlib.Tactic.Choose
import TypedTree.Tree.Walk

/-! # Depth-first walks against the recursive orders -/

namespace TypedTree

variable {c : Catalog} {x : Placed}

/-! ### What a cursor yields -/

/-- Asked for the next item again and again, a cursor gives the items of a list, and then none. -/
inductive Cursor.Yields (c : Catalog) : Cursor → List Placed → Prop where
  | done {cursor} (h : cursor.next? c = none) : Yields c cursor []
  | next {cursor rest x items} (h : cursor.next? c = some (x, rest)) :
      Yields c rest items → Yields c cursor (x :: items)

/-! ### The orders by their children -/

theorem Value.preOrder_eq (c : Catalog) (key : Option TreeKey) (item : Value) :
    item.preOrder c key =
      (key, item) :: (placedChildren c item).flatMap fun x => x.2.preOrder c x.1 := by
  rw [preOrder, placedChildren, List.flatMap_map]
  congr 1
  rw [List.flatMap_subtype (fun _ _ => rfl), List.unattach_attach]

theorem Value.postOrder_eq (c : Catalog) (key : Option TreeKey) (item : Value) :
    item.postOrder c key =
      ((placedChildren c item).flatMap fun x => x.2.postOrder c x.1) ++ [(key, item)] := by
  rw [postOrder, placedChildren, List.flatMap_map]
  congr 1
  rw [List.flatMap_subtype (fun _ _ => rfl), List.unattach_attach]

/-! ### The stacks -/

/-- A stack in pre-order stands for what is below its items, one after the other. -/
theorem yields_preOrder (c : Catalog) (stack : List Placed) :
    (Cursor.preOrder stack).Yields c (stack.flatMap fun x => x.2.preOrder c x.1) := by
  match stack with
  | [] => exact .done rfl
  | x :: rest =>
    have ih := yields_preOrder c (placedChildren c x.2 ++ rest)
    rw [List.flatMap_cons, Value.preOrder_eq, List.cons_append, ← List.flatMap_append]
    exact .next rfl ih
termination_by placedSize stack
decreasing_by
  have := placedSize_children_lt c x.2
  simp
  omega

/-- What an item of a stack in post-order stands for: only itself, once it is marked. -/
def pendingPostOrder (c : Catalog) : Placed × Bool → List Placed
  | (x, true) => [x]
  | (x, false) => x.2.postOrder c x.1

theorem flatMap_pendingPostOrder_unmarked (c : Catalog) (items : List Placed) :
    (items.map (·, false)).flatMap (pendingPostOrder c) =
      items.flatMap fun x => x.2.postOrder c x.1 := by
  rw [List.flatMap_map]
  rfl

/-- Expanding an item does not change what the stack stands for. -/
theorem flatMap_pendingPostOrder_expand (c : Catalog) (x : Placed) (rest : List (Placed × Bool)) :
    ((placedChildren c x.2).map (·, false) ++ (x, true) :: rest).flatMap (pendingPostOrder c) =
      ((x, false) :: rest).flatMap (pendingPostOrder c) := by
  rw [List.flatMap_append, flatMap_pendingPostOrder_unmarked, List.flatMap_cons, List.flatMap_cons,
    pendingPostOrder, pendingPostOrder, Value.postOrder_eq, List.append_assoc]

theorem flatMap_pendingPostOrder_popMarked (c : Catalog) (stack : List (Placed × Bool)) :
    stack.flatMap (pendingPostOrder c) =
      match popMarked? c stack with
      | some (x, rest) => x :: rest.flatMap (pendingPostOrder c)
      | none => [] := by
  fun_induction popMarked? c stack with
  | case1 => rfl
  | case2 x rest => rfl
  | case3 x rest ih => rw [← ih, flatMap_pendingPostOrder_expand]

theorem yields_postOrder (c : Catalog) (stack : List (Placed × Bool)) :
    (Cursor.postOrder stack).Yields c (stack.flatMap (pendingPostOrder c)) := by
  have hpop := flatMap_pendingPostOrder_popMarked c stack
  cases h : popMarked? c stack with
  | none =>
    rw [h] at hpop
    rw [hpop]
    exact .done (by rw [Cursor.next?, h]; rfl)
  | some p =>
    obtain ⟨x, rest⟩ := p
    have ih := yields_postOrder c rest
    rw [h] at hpop
    rw [hpop]
    exact .next (by rw [Cursor.next?, h]; rfl) ih
termination_by markedSize stack
decreasing_by exact markedSize_popMarked h

/-! ### Positions -/

/-- A position in a tree: at each item on the way from the root, the number of the child to go
to. -/
abbrev Position := List Nat

/-- The item at a position below another one. -/
def itemAt? (c : Catalog) (x : Placed) : Position → Option Placed
  | [] => some x
  | i :: p => (placedChildren c x.2)[i]?.bind fun child => itemAt? c child p

/-- No position comes before one that leads to it. -/
def AncestorsFirst (p q : Position) : Prop :=
  ¬ q <+: p

/-- No position comes behind one that leads to it. -/
def DescendantsFirst (p q : Position) : Prop :=
  ¬ p <+: q

/-- A condition on a position and a later one, which looks at where the two part. -/
structure Childwise (R : Position → Position → Prop) : Prop where
  irrefl : ∀ p, ¬ R p p
  cons : ∀ i p q, R p q → R (i :: p) (i :: q)
  of_ne : ∀ i j p q, i ≠ j → R (i :: p) (j :: q)

theorem childwise_ancestorsFirst : Childwise AncestorsFirst where
  irrefl _ h := h List.prefix_rfl
  cons _ _ _ h hp := h (List.cons_prefix_cons.mp hp).2
  of_ne _ _ _ _ h hp := h (List.cons_prefix_cons.mp hp).1.symm

theorem childwise_descendantsFirst : Childwise DescendantsFirst where
  irrefl _ h := h List.prefix_rfl
  cons _ _ _ h hp := h (List.cons_prefix_cons.mp hp).2
  of_ne _ _ _ _ h hp := h (List.cons_prefix_cons.mp hp).1

/-- The items of a tree with their positions. No position is left out or comes twice, and all are in
order. -/
structure Visits (c : Catalog) (R : Position → Position → Prop) (root : Placed)
    (positions : List Position) (items : List Placed) : Prop where
  items : positions.map (itemAt? c root) = items.map some
  all : ∀ p, p ∈ positions ↔ (itemAt? c root p).isSome
  once : positions.Nodup
  order : positions.Pairwise R

/-! ### Positions below an item -/

/-- The positions below an item, from those below each of its children. -/
def positionsBelow {α : Type} (children : List α) (positions : α → List Position) :
    List Position :=
  children.zipIdx.flatMap fun (child, i) => (positions child).map (i :: ·)

section

variable {α : Type} {children : List α} {positions : α → List Position}

theorem mem_positionsBelow {p : Position} : p ∈ positionsBelow children positions ↔
    ∃ i child q, children[i]? = some child ∧ q ∈ positions child ∧ p = i :: q := by
  simp only [positionsBelow, List.mem_flatMap, Prod.exists, List.mem_zipIdx_iff_getElem?,
    List.mem_map]
  constructor
  · rintro ⟨child, i, hi, q, hq, rfl⟩
    exact ⟨i, child, q, hi, hq, rfl⟩
  · rintro ⟨i, child, q, hi, hq, rfl⟩
    exact ⟨child, i, hi, q, hq, rfl⟩

theorem Childwise.pairwise_positionsBelow {R : Position → Position → Prop} (hR : Childwise R)
    (h : ∀ child ∈ children, (positions child).Pairwise R) :
    (positionsBelow children positions).Pairwise R := by
  rw [positionsBelow, List.pairwise_flatMap]
  constructor
  · rintro ⟨child, i⟩ hm
    have hp := h child (List.mem_of_getElem? (List.mem_zipIdx_iff_getElem?.mp hm))
    exact List.pairwise_map.mpr (hp.imp (hR.cons i _ _))
  · have hne : children.zipIdx.Pairwise fun a b => a.2 ≠ b.2 := by
      rw [← List.pairwise_map, List.zipIdx_map_snd]
      exact List.nodup_range'
    refine hne.imp fun {a b} hab p hp q hq => ?_
    obtain ⟨p, -, rfl⟩ := List.mem_map.mp hp
    obtain ⟨q, -, rfl⟩ := List.mem_map.mp hq
    exact hR.of_ne _ _ p q hab

end

variable {R : Position → Position → Prop} {positions : Placed → List Position}
  {below : Placed → List Placed}

theorem map_itemAt?_positionsBelow (h : ∀ child ∈ placedChildren c x.2,
    (positions child).map (itemAt? c child) = (below child).map some) :
    (positionsBelow (placedChildren c x.2) positions).map (itemAt? c x) =
      ((placedChildren c x.2).flatMap below).map some := by
  have hfst : placedChildren c x.2 = (placedChildren c x.2).zipIdx.map (·.1) :=
    (List.zipIdx_map_fst ..).symm
  rw [positionsBelow, List.map_flatMap, List.map_flatMap]
  conv => rhs; rw [hfst, List.flatMap_map]
  refine List.flatMap_congr fun entry hm => ?_
  obtain ⟨child, i⟩ := entry
  have hi := List.mem_zipIdx_iff_getElem?.mp hm
  rw [← h child (List.mem_of_getElem? hi), List.map_map]
  refine List.map_congr_left fun p _ => ?_
  rw [Function.comp_apply, itemAt?, hi, Option.bind_some]

theorem mem_positionsBelow_iff_isSome (h : ∀ child ∈ placedChildren c x.2, ∀ p,
    p ∈ positions child ↔ (itemAt? c child p).isSome) (p : Position) :
    p ∈ positionsBelow (placedChildren c x.2) positions ↔
      p ≠ [] ∧ (itemAt? c x p).isSome := by
  rw [mem_positionsBelow]
  constructor
  · rintro ⟨i, child, q, hi, hq, rfl⟩
    refine ⟨List.cons_ne_nil i q, ?_⟩
    rw [itemAt?, hi]
    exact (h child (List.mem_of_getElem? hi) q).mp hq
  · rintro ⟨hp, hs⟩
    cases p with
    | nil => exact absurd rfl hp
    | cons i q =>
      rw [itemAt?] at hs
      cases hi : (placedChildren c x.2)[i]? with
      | none => simp [hi] at hs
      | some child =>
        rw [hi] at hs
        exact ⟨i, child, q, hi, (h child (List.mem_of_getElem? hi) q).mpr hs, rfl⟩

/-! ### The recursive orders -/

/-- What is below an item can be visited if that is so for each child. -/
theorem Childwise.exists_below (hR : Childwise R)
    (h : ∀ child ∈ placedChildren c x.2, ∃ positions, Visits c R child positions (below child)) :
    ∃ positions : List Position,
      positions.map (itemAt? c x) = ((placedChildren c x.2).flatMap below).map some ∧
      (∀ p, p ∈ positions ↔ p ≠ [] ∧ (itemAt? c x p).isSome) ∧ positions.Pairwise R := by
  choose! positions hvisits using h
  exact ⟨positionsBelow (placedChildren c x.2) positions,
    map_itemAt?_positionsBelow fun child hm => (hvisits child hm).items,
    mem_positionsBelow_iff_isSome fun child hm => (hvisits child hm).all,
    hR.pairwise_positionsBelow fun child hm => (hvisits child hm).order⟩

theorem Childwise.nodup (hR : Childwise R) {positions : List Position}
    (h : positions.Pairwise R) : positions.Nodup := by
  refine h.imp fun {p q} hp => ?_
  rintro rfl
  exact hR.irrefl p hp

/-- A position is that of the item itself or one below it. -/
theorem eq_nil_or_isSome_iff (c : Catalog) (x : Placed) (p : Position) :
    p = [] ∨ p ≠ [] ∧ (itemAt? c x p).isSome ↔ (itemAt? c x p).isSome := by
  by_cases hp : p = []
  · simp [hp, itemAt?]
  · simp [hp]

/-- The root comes first and leads to all other positions. -/
theorem exists_visits_preOrder (c : Catalog) (key : Option TreeKey) (item : Value) :
    ∃ positions, Visits c AncestorsFirst (key, item) positions (item.preOrder c key) := by
  induction key, item using Value.preOrder.induct c with
  | case1 key item ih =>
    have hchildren : ∀ x ∈ placedChildren c item,
        ∃ positions, Visits c AncestorsFirst x positions (x.2.preOrder c x.1) := by
      intro x hx
      obtain ⟨⟨k, child⟩, hm, rfl⟩ := List.mem_map.mp hx
      exact ih k child hm
    obtain ⟨positions, hitems, hall, horder⟩ :=
      childwise_ancestorsFirst.exists_below (x := (key, item)) hchildren
    have hcons : ([] :: positions).Pairwise AncestorsFirst := by
      refine List.pairwise_cons.mpr ⟨fun p hp hprefix => ?_, horder⟩
      exact ((hall p).mp hp).1 (List.prefix_nil.mp hprefix)
    refine ⟨[] :: positions, ?_, ?_, childwise_ancestorsFirst.nodup hcons, hcons⟩
    · rw [List.map_cons, hitems, Value.preOrder_eq, List.map_cons, itemAt?]
    · intro p
      rw [List.mem_cons, hall, eq_nil_or_isSome_iff]

/-- The root comes last. -/
theorem exists_visits_postOrder (c : Catalog) (key : Option TreeKey) (item : Value) :
    ∃ positions, Visits c DescendantsFirst (key, item) positions (item.postOrder c key) := by
  induction key, item using Value.postOrder.induct c with
  | case1 key item ih =>
    have hchildren : ∀ x ∈ placedChildren c item,
        ∃ positions, Visits c DescendantsFirst x positions (x.2.postOrder c x.1) := by
      intro x hx
      obtain ⟨⟨k, child⟩, hm, rfl⟩ := List.mem_map.mp hx
      exact ih k child hm
    obtain ⟨positions, hitems, hall, horder⟩ :=
      childwise_descendantsFirst.exists_below (x := (key, item)) hchildren
    have happend : (positions ++ [[]]).Pairwise DescendantsFirst := by
      refine List.pairwise_append.mpr ⟨horder, List.pairwise_singleton _ _, ?_⟩
      intro p hp q hq hprefix
      obtain rfl := List.mem_singleton.mp hq
      exact ((hall p).mp hp).1 (List.prefix_nil.mp hprefix)
    refine ⟨positions ++ [[]], ?_, ?_, childwise_descendantsFirst.nodup happend, happend⟩
    · rw [List.map_append, hitems, Value.postOrder_eq, List.map_append]
      rfl
    · intro p
      rw [List.mem_append, List.mem_singleton, hall, or_comm, eq_nil_or_isSome_iff]

/-! ### The walks -/

/-- Asked again and again, the depth-first cursors give the recursive orders, which have the item at
every position once: in pre-order before the items at the positions below, in post-order behind
them. -/
theorem depthFirst_walks (c : Catalog) (root : Value) :
    ((Cursor.start .preOrder root).Yields c (root.preOrder c none) ∧
      ∃ positions, Visits c AncestorsFirst (none, root) positions (root.preOrder c none)) ∧
    ((Cursor.start .postOrder root).Yields c (root.postOrder c none) ∧
      ∃ positions, Visits c DescendantsFirst (none, root) positions (root.postOrder c none)) := by
  have hpre := yields_preOrder c [(none, root)]
  have hpost := yields_postOrder c [((none, root), false)]
  rw [List.flatMap_singleton] at hpre hpost
  exact ⟨⟨hpre, exists_visits_preOrder c none root⟩, ⟨hpost, exists_visits_postOrder c none root⟩⟩

/-! ### The items in pre-order -/

theorem Cursor.Yields.toList_eq {c : Catalog} {cursor : Cursor} {items : List Placed}
    (h : cursor.Yields c items) : cursor.toList c = items := by
  induction h with
  | done h =>
    rw [Cursor.toList]
    split
    · rfl
    · next hn => cases h.symm.trans hn
  | next h _ ih =>
    rw [Cursor.toList]
    split
    · next hn => cases h.symm.trans hn
    · next hn =>
      cases h.symm.trans hn
      rw [ih]

theorem Value.items_preOrder (c : Catalog) (root : Value) :
    root.items c .preOrder = (root.preOrder c Option.none).map (·.2) := by
  have hyields := yields_preOrder c [(Option.none, root)]
  rw [List.flatMap_singleton] at hyields
  rw [items, walk, Cursor.start, hyields.toList_eq]

/-- The places of items do not matter for what the items below them are. -/
theorem Value.map_snd_preOrder (c : Catalog) (key : Option TreeKey) (item : Value) :
    (item.preOrder c key).map (·.2) = item.items c .preOrder := by
  rw [items_preOrder, preOrder_eq, preOrder_eq, List.map_cons, List.map_cons]

theorem Value.items_preOrder_eq (c : Catalog) (item : Value) : item.items c .preOrder =
    item :: ((item.children c).map (·.2)).flatMap (·.items c .preOrder) := by
  rw [items_preOrder, preOrder_eq, List.map_cons, List.map_flatMap, placedChildren,
    List.flatMap_map, List.flatMap_map]
  simp only [map_snd_preOrder]

end TypedTree
