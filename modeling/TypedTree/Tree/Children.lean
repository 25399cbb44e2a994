import TypedTree.Record.Access
import TypedTree.Value.Text

/-!
# Children of an item

An item of a tree is a value. The children of a node are its child fields; the children of a
container are its elements, of a map the values of its entries. Scalars and plain records have
none. Every child is smaller than its item, which is what walks over trees recur on.
-/

namespace TypedTree

/-- The place of an item in its parent: a field, a position, or the element or key itself. -/
inductive TreeKey where
  | field (name : String)
  | index (position : Nat)
  | key (value : Value)

def TreeKey.text (c : Catalog) : TreeKey → String
  | .field name => name
  | .index position => toString position
  | .key value => value.text c

/-- The elements of a sequence with their positions. -/
def indexed (position : Nat) : List Value → List (TreeKey × Value)
  | [] => []
  | v :: vs => (.index position, v) :: indexed (position + 1) vs

/-- The children of an item, in order, with their places. -/
def Value.children (c : Catalog) : Value → List (TreeKey × Value)
  | .record r => if r.isNode then (r.children c).map fun (name, v) => (.field name, v) else []
  | .tuple items => indexed 0 items
  | .list items => indexed 0 items
  | .set items => items.map fun v => (.key v, v)
  | .map entries => entries.map fun (k, v) => (.key k, v)
  | _ => []

/-! ## Sizes -/

/-- The sum of the sizes of values. -/
noncomputable def totalSize : List Value → Nat
  | [] => 0
  | v :: vs => sizeOf v + totalSize vs

@[simp] theorem totalSize_nil : totalSize [] = 0 := rfl

@[simp] theorem totalSize_cons (v : Value) (vs : List Value) :
    totalSize (v :: vs) = sizeOf v + totalSize vs := rfl

@[simp] theorem totalSize_append (vs ws : List Value) :
    totalSize (vs ++ ws) = totalSize vs + totalSize ws := by
  induction vs with
  | nil => simp
  | cons v vs ih => simp [ih]; omega

theorem totalSize_lt_sizeOf (vs : List Value) : totalSize vs < sizeOf vs := by
  induction vs with
  | nil => simp
  | cons v vs ih => simp; omega

theorem sizeOf_pos (v : Value) : 0 < sizeOf v := by
  cases v <;> simp [Nat.pos_iff_ne_zero]

theorem map_snd_indexed (n : Nat) (vs : List Value) : (indexed n vs).map (·.2) = vs := by
  induction vs generalizing n with
  | nil => rfl
  | cons v vs ih => simp [indexed, ih]

theorem totalSize_entries_lt (es : List (Value × Value)) :
    totalSize (es.map (·.2)) < sizeOf es := by
  induction es with
  | nil => simp
  | cons e es ih => obtain ⟨k, v⟩ := e; simp; omega

theorem totalSize_select_le (s : Schema) (p : Field → Bool) (vs : List Value) :
    totalSize ((s.select p vs).map (·.2)) ≤ totalSize vs := by
  unfold Schema.select
  generalize s.fields = fs
  induction vs generalizing fs with
  | nil => simp
  | cons v vs ih =>
    cases fs with
    | nil => simp
    | cons f fs =>
      have := ih fs
      by_cases h : p f <;> simp [h] at this ⊢ <;> omega

/-- The children of an item are together smaller than the item. -/
theorem totalSize_children_lt (c : Catalog) (v : Value) :
    totalSize ((v.children c).map (·.2)) < sizeOf v := by
  cases v with
  | record r =>
    obtain ⟨type, values, node, notes⟩ := r
    simp only [Value.children]
    split
    · have hle := totalSize_select_le (c.schema type) (·.kind == .child) values
      have hlt := totalSize_lt_sizeOf values
      simp only [List.map_map, Function.comp_def, Record.children, Record.ofKind, Record.schema]
      simp only [Value.record.sizeOf_spec, Record.mk.sizeOf_spec]
      omega
    · exact sizeOf_pos _
  | tuple items =>
    have := totalSize_lt_sizeOf items
    simp [Value.children, map_snd_indexed]; omega
  | list items =>
    have := totalSize_lt_sizeOf items
    simp [Value.children, map_snd_indexed]; omega
  | set items =>
    have := totalSize_lt_sizeOf items
    simp [Value.children, Function.comp_def]; omega
  | map entries =>
    have := totalSize_entries_lt entries
    simp [Value.children, Function.comp_def]
    omega
  | _ => exact sizeOf_pos _

theorem sizeOf_le_totalSize {v : Value} {vs : List Value} (h : v ∈ vs) :
    sizeOf v ≤ totalSize vs := by
  induction vs with
  | nil => simp at h
  | cons w vs ih =>
    rcases List.mem_cons.mp h with rfl | h
    · simp
    · have := ih h
      simp; omega

/-- Every child is smaller than its item. -/
theorem sizeOf_lt_of_mem_children {c : Catalog} {v : Value} {child : TreeKey × Value}
    (h : child ∈ v.children c) : sizeOf child.2 < sizeOf v :=
  Nat.lt_of_le_of_lt (sizeOf_le_totalSize (List.mem_map_of_mem h)) (totalSize_children_lt c v)

end TypedTree
