import TypedTree.Ty.Basic

/-! # Induction on type descriptions -/

namespace TypedTree.Ty

/-- The parts of a union, a tuple or an application are reached through membership, and a bounded
variable through its bound. -/
theorem induction {motive : Ty → Prop} (any : motive .any) (scalar : ∀ s, motive (.scalar s))
    (literal : ∀ values, motive (.literal values))
    (optional : ∀ inner, motive inner → motive (.optional inner))
    (union : ∀ alternatives, (∀ t ∈ alternatives, motive t) → motive (.union alternatives))
    (tuple : ∀ elements, (∀ t ∈ elements, motive t) → motive (.tuple elements))
    (list : ∀ element, motive element → motive (.list element))
    (set : ∀ element, motive element → motive (.set element))
    (map : ∀ key value, motive key → motive value → motive (.map key value))
    (enum : ∀ e, motive (.enum e)) (record : ∀ t, motive (.record t))
    (var : ∀ name, motive (.var name none))
    (bounded : ∀ name bound, motive bound → motive (.var name (some bound)))
    (apply : ∀ generic arguments, (∀ t ∈ arguments, motive t) → motive (.apply generic arguments))
    (t : Ty) : motive t := by
  refine @Ty.rec motive (fun ts => ∀ t ∈ ts, motive t) (fun o => ∀ bound ∈ o, motive bound)
    any scalar literal optional union tuple list set map enum record ?_ apply ?_ ?_ ?_ ?_ t
  · intro name bound ih
    cases bound with
    | none => exact var name
    | some bound => exact bounded name bound (ih bound rfl)
  · exact fun t ht => absurd ht List.not_mem_nil
  · intro t ts ht hts
    exact List.forall_mem_cons.mpr ⟨ht, hts⟩
  · exact fun bound hb => absurd hb (Option.not_mem_none bound)
  · rintro bound hb _ ⟨⟩
    exact hb

end TypedTree.Ty
