import TypedTree.Proofs.Value.Equivalence

/-! # Induction on values -/

namespace TypedTree.Value

/-- The parts of a container and the values of a record are reached through membership. The dynamic
annotations of a record are not reached. -/
theorem induction {motive : Value → Prop} (atom : ∀ v, v.isAtom = true → motive v)
    (tuple : ∀ items, (∀ x ∈ items, motive x) → motive (.tuple items))
    (list : ∀ items, (∀ x ∈ items, motive x) → motive (.list items))
    (set : ∀ items, (∀ x ∈ items, motive x) → motive (.set items))
    (map : ∀ entries, (∀ e ∈ entries, motive e.1 ∧ motive e.2) → motive (.map entries))
    (record : ∀ r, (∀ x ∈ r.values, motive x) → motive (.record r)) (v : Value) : motive v := by
  induction hn : sizeOf v using Nat.strongRecOn generalizing v with
  | ind n ih =>
    subst hn
    have hpart : ∀ x ∈ v.parts, motive x := fun x hx => ih _ (sizeOf_lt_of_mem_parts hx) x rfl
    cases v with
    | tuple items => exact tuple items hpart
    | list items => exact list items hpart
    | set items => exact set items hpart
    | map entries => exact map entries (forall_parts_map_iff.mp hpart)
    | record r => exact record r hpart
    | _ => exact atom _ rfl

end TypedTree.Value
