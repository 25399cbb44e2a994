import TypedTree.Tree.Children

/-!
# Visiting

A visitor is asked to visit items. What it does for a node and for any other item is its own choice,
and so is when it walks on to the children, if at all. Unless it says otherwise, that is all it does.
-/

namespace TypedTree

/-- What a visitor does with an item and its state. It is handed the walk to the children. -/
structure Visitor (σ : Type) where
  visitNode : (walk : σ → σ) → Record → σ → σ := fun walk _ => walk
  visitValue : (walk : σ → σ) → Value → σ → σ := fun walk _ => walk

namespace Visitor

variable {σ : Type}

mutual

/-- Visits an item, as a node if it is one. -/
def visit (c : Catalog) (visitor : Visitor σ) (s : σ) (item : Value) : σ :=
  match item with
  | .record r =>
    if r.isNode then visitor.visitNode (visitor.walkNode c r) r s
    else visitor.visitValue (visitor.walkValue c (.record r)) (.record r) s
  | item => visitor.visitValue (visitor.walkValue c item) item s
termination_by (sizeOf item, 2)

/-- Visits each child of a node. -/
def walkNode (c : Catalog) (visitor : Visitor σ) (r : Record) (s : σ) : σ :=
  visitor.walkValue c (.record r) s
termination_by (sizeOf (Value.record r), 1)

/-- Visits each child of an item. -/
def walkValue (c : Catalog) (visitor : Visitor σ) (item : Value) (s : σ) : σ :=
  (item.children c).attach.foldl (fun s ⟨child, _⟩ => visitor.visit c s child.2) s
termination_by (sizeOf item, 0)
decreasing_by exact Prod.Lex.left _ _ (sizeOf_lt_of_mem_children ‹_›)

end

/-- A visitor that looks at nodes only and goes everywhere. -/
def ofNode (f : σ → Record → σ) : Visitor σ where
  visitNode walk r s := walk (f s r)

end Visitor

end TypedTree
