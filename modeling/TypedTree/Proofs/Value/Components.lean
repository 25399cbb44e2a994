import TypedTree.Proofs.Value.Equivalence

/-! # What occurs in a value -/

namespace TypedTree.Value

/-- The values that a value is put together from; of a record, the values of its fields and of its
dynamic annotations. -/
def components : Value → List Value
  | .record r => r.values ++ r.annotations.map (·.2)
  | v => v.parts

theorem sizeOf_lt_of_mem_components {v x : Value} (hx : x ∈ v.components) :
    sizeOf x < sizeOf v := by
  cases v with
  | record r =>
    rcases List.mem_append.mp hx with hx | hx
    · exact sizeOf_lt_of_mem_parts (a := .record r) hx
    · obtain ⟨⟨name, x⟩, hm, rfl⟩ := List.mem_map.mp hx
      obtain ⟨type, values, node, notes⟩ := r
      have hlt := List.sizeOf_lt_of_mem (show (name, x) ∈ notes from hm)
      simp only [Prod.mk.sizeOf_spec] at hlt
      simp only [record.sizeOf_spec, Record.mk.sizeOf_spec]
      omega
  | _ => exact sizeOf_lt_of_mem_parts hx

/-- Unlike `Value.induction`, this reaches the values of dynamic annotations. -/
theorem components_induction {motive : Value → Prop}
    (step : ∀ v, (∀ x ∈ v.components, motive x) → motive v) (v : Value) : motive v := by
  induction hn : sizeOf v using Nat.strongRecOn generalizing v with
  | ind n ih =>
    subst hn
    exact step v fun x hx => ih _ (sizeOf_lt_of_mem_components hx) x rfl

/-- The value is the other one, or occurs in one that this is put together from. -/
inductive Occurs (x : Value) : Value → Prop where
  | here : Occurs x x
  | within {v y : Value} (hy : y ∈ v.components) (h : Occurs x y) : Occurs x v

/-- The condition holds of all that occurs in the value. -/
def Everywhere (P : Value → Prop) (v : Value) : Prop :=
  ∀ x, Occurs x v → P x

theorem everywhere_iff {P : Value → Prop} {v : Value} :
    v.Everywhere P ↔ P v ∧ ∀ x ∈ v.components, x.Everywhere P := by
  constructor
  · exact fun h => ⟨h v .here, fun x hx y hy => h y (.within hx hy)⟩
  · rintro ⟨hv, hx⟩ y hy
    cases hy with
    | here => exact hv
    | within hm hy => exact hx _ hm y hy

theorem Everywhere.mono {P Q : Value → Prop} {v : Value} (h : v.Everywhere P)
    (hpq : ∀ x, P x → Q x) : v.Everywhere Q :=
  fun x hx => hpq x (h x hx)

end TypedTree.Value
