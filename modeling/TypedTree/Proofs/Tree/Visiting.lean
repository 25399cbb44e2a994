import TypedTree.Proofs.Tree.DepthFirst
import TypedTree.Tree.Visit

/-!
# Visiting against the walk in pre-order

A visitor recurs into children through its own methods, a cursor keeps what is still to come on a
stack. A visitor that walks on wherever it is asked to visit meets the items that the cursor yields,
in the order in which it yields them.
-/

namespace TypedTree

/-! ### Visits -/

/-- What a visitor is asked to visit: a node, or any other item. -/
inductive Visit where
  | node (r : Record)
  | value (item : Value)

namespace Visit

def item : Visit → Value
  | .node r => .record r
  | .value item => item

/-- The item is visited as a node exactly if it is one. -/
def Dispatched : Visit → Prop
  | .node r => r.isNode = true
  | .value item => ∀ r, item = .record r → r.isNode = false

/-- How an item is visited. -/
def ofItem : Value → Visit
  | .record r => if r.isNode then .node r else .value (.record r)
  | item => .value item

theorem item_ofItem (item : Value) : (ofItem item).item = item := by
  cases item with
  | record r =>
    rw [ofItem]
    split <;> rfl
  | _ => rfl

theorem dispatched_ofItem (item : Value) : (ofItem item).Dispatched := by
  cases item with
  | record r =>
    rw [ofItem]
    split
    · next hn => exact hn
    · next hn =>
      rintro _ ⟨⟩
      simpa using hn
  | _ => rintro _ ⟨⟩

end Visit

/-! ### Walks and dispatch -/

namespace Visitor

variable {σ : Type} {c : Catalog} {visitor : Visitor σ} {r : Record}

theorem walkValue_eq (c : Catalog) (visitor : Visitor σ) (item : Value) (s : σ) :
    visitor.walkValue c item s = ((item.children c).map (·.2)).foldl (visitor.visit c) s := by
  have hattach := List.foldl_attach (l := item.children c)
    (f := fun s child => visitor.visit c s child.2) (b := s)
  rw [walkValue, List.foldl_map, ← hattach]

theorem walkNode_eq (c : Catalog) (visitor : Visitor σ) (r : Record) :
    visitor.walkNode c r = visitor.walkValue c (.record r) := by
  funext s
  rw [walkNode]

/-- Nodes are visited as nodes. -/
theorem visit_node (hn : r.isNode = true) (s : σ) :
    visitor.visit c s (.record r) = visitor.visitNode (visitor.walkNode c r) r s := by
  rw [visit, if_pos hn]

theorem visit_plain (hn : r.isNode = false) (s : σ) : visitor.visit c s (.record r) =
    visitor.visitValue (visitor.walkValue c (.record r)) (.record r) s := by
  rw [visit, if_neg (ne_true_of_eq_false hn)]

theorem visit_value {item : Value} (hr : ∀ r, item ≠ .record r) (s : σ) :
    visitor.visit c s item = visitor.visitValue (visitor.walkValue c item) item s := by
  cases item with
  | record r => exact absurd rfl (hr r)
  | _ => rw [visit]; exact hr

/-! ### Visitors that walk on -/

/-- A visitor that makes a note of what it is asked to visit and keeps to the walks otherwise. -/
def noting (note : σ → Visit → σ) : Visitor σ where
  visitNode walk r s := walk (note s (.node r))
  visitValue walk item s := walk (note s (.value item))

variable {note : σ → Visit → σ}

/-- Whichever method is called, it comes to a note and the walk to the children. -/
theorem visit_noting (c : Catalog) (note : σ → Visit → σ) (s : σ) (item : Value) :
    (noting note).visit c s item =
      (noting note).walkValue c item (note s (.ofItem item)) := by
  cases item with
  | record r =>
    cases hn : r.isNode with
    | true => rw [visit_node hn, Visit.ofItem, if_pos hn, walkNode_eq]; rfl
    | false => rw [visit_plain hn, Visit.ofItem, if_neg (ne_true_of_eq_false hn)]; rfl
  | _ =>
    rw [visit_value (by rintro r ⟨⟩)]
    rfl

/-- What is below each child is noted in turn. -/
theorem foldl_visit_noting {children : List Value}
    (h : ∀ child ∈ children, ∀ s, (noting note).visit c s child =
      ((child.items c .preOrder).map Visit.ofItem).foldl note s) (s : σ) :
    children.foldl ((noting note).visit c) s =
      ((children.flatMap (·.items c .preOrder)).map Visit.ofItem).foldl note s := by
  induction children generalizing s with
  | nil => rfl
  | cons child rest ih =>
    obtain ⟨hchild, hrest⟩ := List.forall_mem_cons.mp h
    rw [List.foldl_cons, ih hrest, hchild, List.flatMap_cons, List.map_append, List.foldl_append]

/-- By induction on the item, for its children are smaller. -/
theorem visit_noting_eq_foldl (note : σ → Visit → σ) (s : σ) (item : Value) :
    (noting note).visit c s item =
      ((item.items c .preOrder).map Visit.ofItem).foldl note s := by
  induction hn : sizeOf item using Nat.strongRecOn generalizing s item with
  | ind n ih =>
    subst hn
    have hchildren : ∀ child ∈ (item.children c).map (·.2), ∀ s, (noting note).visit c s child =
        ((child.items c .preOrder).map Visit.ofItem).foldl note s := by
      intro child hm s
      obtain ⟨placed, hplaced, rfl⟩ := List.mem_map.mp hm
      exact ih _ (sizeOf_lt_of_mem_children hplaced) s placed.2 rfl
    rw [visit_noting, walkValue_eq, foldl_visit_noting hchildren, Value.items_preOrder_eq]
    rfl

/-- A visitor that lists what it is asked to visit. -/
def recorder : Visitor (List Visit) :=
  noting fun visits visit => visits ++ [visit]

theorem recorder_visit_eq (c : Catalog) (item : Value) :
    recorder.visit c [] item = (item.items c .preOrder).map Visit.ofItem := by
  rw [recorder, visit_noting_eq_foldl, List.foldl_append_eq_append]
  exact List.flatMap_singleton' _

/-- A visitor that keeps to the walks visits what the cursor yields in pre-order: nodes as nodes,
and all other items as values. -/
theorem visit_recorder (c : Catalog) (item : Value) :
    (recorder.visit c [] item).map (·.item) = item.items c .preOrder ∧
      ∀ visit ∈ recorder.visit c [] item, visit.Dispatched := by
  rw [recorder_visit_eq]
  constructor
  · have hitem : (fun visit : Visit => visit.item) ∘ Visit.ofItem = id := funext Visit.item_ofItem
    rw [List.map_map, hitem, List.map_id]
  · intro visit hm
    obtain ⟨item, -, rfl⟩ := List.mem_map.mp hm
    exact Visit.dispatched_ofItem item

end Visitor

end TypedTree
