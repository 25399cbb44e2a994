import TypedTree.Proofs.Validation.Correctness
import TypedTree.Proofs.World.Composition
import TypedTree.Proofs.World.Lineage

/-! # What the type of an application derives from -/

namespace TypedTree

theorem Catalog.Extends.rootApplication_eq {c c' : Catalog} (h : c.Extends c') {generic : TypeId}
    (hg : generic < c.schemas.length) (arguments : List Ty) :
    c'.rootApplication generic arguments = c.rootApplication generic arguments := by
  rw [Catalog.rootApplication, Catalog.rootApplication, h.schema_eq hg]

namespace World

variable {w w' w₁ : World} {generic t u a : TypeId} {arguments : List Ty}

/-! ### Subtypes -/

theorem Sound.isSubtype_trans (h : w.Sound) (htu : w.catalog.isSubtype t u = true)
    (hua : w.catalog.isSubtype u a = true) : w.catalog.isSubtype t a = true := by
  rw [Catalog.isSubtype_iff] at htu hua ⊢
  obtain ⟨nearer, hl, -⟩ := h.lineage_eq_append htu
  rw [hl]
  exact List.mem_append_right nearer hua

theorem validate_record_eq_ok_iff (c : Catalog) (r : Record) :
    (Ty.record a).validate c (.record r) = .ok () ↔ r.isInstance c a = true := by
  rw [Ty.validate]
  by_cases h : r.isInstance c a <;> simp [h]

/-! ### Types made by applications -/

/-- What an application gave stays marked with the application to which it comes down. -/
theorem Sound.origin_of_specialize {allowed : Operation → Prop} (h : w.Sound)
    (hs : w.specialize generic arguments = .ok (t, w₁)) (hr : Run allowed w₁ w') :
    (w'.catalog.schema t).origin = some (w'.catalog.rootApplication generic arguments) := by
  have hmade := (h.of_specialize hs).made_of_remembered (h.remembered_of_specialize hs)
  have hx := (extends_of_specialize hs).trans hr.extends
  rw [hr.extends.schema_eq hmade.lt, hmade.origin,
    hx.rootApplication_eq (generic_lt_of_specialize hs)]

/-- The fields are those of the applied type with its parameters replaced, even where the type was
made from the declared generic type behind it. -/
theorem Sound.fields_of_specialize {allowed : Operation → Prop} (h : w.Sound)
    (hs : w.specialize generic arguments = .ok (t, w₁)) (hr : Run allowed w₁ w') :
    (w'.catalog.schema t).fields = (w'.catalog.schema generic).appliedFields arguments := by
  have h' : w'.Sound := hr.sound (h.of_specialize hs)
  have horigin := h.origin_of_specialize hs hr
  rw [(h'.makesIn_of_origin horigin).fields]
  cases ho : (w'.catalog.schema generic).origin with
  | none => simp only [Catalog.rootApplication, ho]
  | some app =>
    simp only [Catalog.rootApplication, ho]
    exact (h'.appliedFields_of_makesIn (h'.makesIn_of_origin ho)).symm

/-- A type made by an application is younger than the generic type, which thus does not derive from
it. -/
theorem Sound.not_mem_lineage_of_origin {app : Application} (h : w.Sound)
    (ho : (w.catalog.schema t).origin = some app) : t ∉ w.catalog.lineage app.generic := by
  have hg : app.generic ∈ (w.catalog.schema t).ancestors := by
    rw [h.ancestors_of_origin ho]
    exact List.mem_cons_self
  intro hm
  exact absurd (h.le_of_mem_lineage hm) (Nat.not_le_of_lt (h.lt_of_mem_ancestors hg))

/-- All that a type derives from stands in the lineage of the declared generic type to which its
applications come down. -/
theorem Sound.mem_lineage_root (h : w.Sound) (arguments : List Ty)
    (ha : a ∈ (w.catalog.schema generic).ancestors) :
    a ∈ w.catalog.lineage (w.catalog.rootApplication generic arguments).generic := by
  rw [Catalog.rootApplication]
  cases ho : (w.catalog.schema generic).origin with
  | none => exact List.mem_cons_of_mem generic ha
  | some app => exact h.ancestors_of_origin ho ▸ ha

/-- The type of an application is a subtype of everything that the applied type derives from. It is
a subtype of the applied type itself exactly if that one was declared or is given back, for a type
that was made by an application is applied by way of the declared generic type. The instances match
all these types. -/
theorem derives_of_specialize (hw : Reachable w)
    (hs : w.specialize generic arguments = .ok (t, w₁)) (hr : Run (fun _ => True) w₁ w') :
    (∀ a ∈ (w'.catalog.schema generic).ancestors, w'.catalog.isSubtype t a = true) ∧
    (w'.catalog.isSubtype t generic = true ↔
      (w'.catalog.schema generic).origin = none ∨ t = generic) ∧
    ∀ (r : Record) (a : TypeId), r.isInstance w'.catalog t = true →
      w'.catalog.isSubtype t a = true → (Ty.record a).validate w'.catalog (.record r) = .ok () := by
  have h' : w'.Sound := hr.sound (hw.sound.of_specialize hs)
  have hancestors := h'.ancestors_of_origin (hw.sound.origin_of_specialize hs hr)
  refine ⟨?_, ⟨?_, ?_⟩, ?_⟩
  · intro a ha
    rw [Catalog.isSubtype_iff, Catalog.lineage, hancestors]
    exact List.mem_cons_of_mem t (h'.mem_lineage_root arguments ha)
  · -- The applied type is younger than the declared generic type behind it, and so not above it.
    intro hsub
    rw [Catalog.isSubtype_iff, Catalog.lineage, hancestors, List.mem_cons] at hsub
    cases ho : (w'.catalog.schema generic).origin with
    | none => exact .inl rfl
    | some app =>
      simp only [Catalog.rootApplication, ho] at hsub
      exact .inr (hsub.resolve_right (h'.not_mem_lineage_of_origin ho)).symm
  · rintro (ho | rfl)
    · rw [Catalog.isSubtype_iff, Catalog.lineage, hancestors, Catalog.rootApplication, ho]
      exact List.mem_cons_of_mem t List.mem_cons_self
    · rw [Catalog.isSubtype_iff]
      exact List.mem_cons_self
  · intro r a hi ha
    rw [validate_record_eq_ok_iff]
    exact h'.isSubtype_trans hi ha

/-! ### A pair in two steps -/

/-- The world in which a pair of an integer and a variable is made. -/
def halfPairWorld : World :=
  pairWorld.after (.specialize 0 [.scalar .int, .var "V" none])

/-- The world in which the variable gives way to byte strings. -/
def fullPairWorld : World :=
  halfPairWorld.after (.specialize 1 [.scalar .bytes])

theorem reachable_halfPairWorld : Reachable halfPairWorld :=
  reachable_pairWorld.step trivial trivial

theorem specialize_halfPairWorld :
    halfPairWorld.specialize 1 [.scalar .bytes] = .ok (2, fullPairWorld) := rfl

/-- The full pair derives from the declared pair, and not from the half one. -/
theorem derives_of_halfPair :
    halfPairWorld.specialize 1 [.scalar .bytes] = .ok (2, fullPairWorld) ∧
      fullPairWorld.catalog.isSubtype 2 0 = true ∧ fullPairWorld.catalog.isSubtype 2 1 = false := by
  obtain ⟨hsub, hself, -⟩ :=
    derives_of_specialize reachable_halfPairWorld specialize_halfPairWorld .refl
  have hancestors : (fullPairWorld.catalog.schema 1).ancestors = [0] := rfl
  have hmade : (fullPairWorld.catalog.schema 1).origin =
    some ⟨0, [.scalar .int, .var "V" none]⟩ := rfl
  refine ⟨specialize_halfPairWorld, ?_, ?_⟩
  · apply hsub
    rw [hancestors]
    exact List.mem_singleton.mpr rfl
  · rw [Bool.eq_false_iff, ne_eq, hself, hmade]
    simp

/-- The type of an application need not be a subtype of the applied type. -/
theorem not_isSubtype_of_specialize :
    ¬ ∀ (w w' : World) (generic t : TypeId) (arguments : List Ty), Reachable w →
      w.specialize generic arguments = .ok (t, w') → w'.catalog.isSubtype t generic = true := by
  intro hall
  have hsub := hall _ _ _ _ _ reachable_halfPairWorld specialize_halfPairWorld
  have hnot : fullPairWorld.catalog.isSubtype 2 1 = false := rfl
  rw [hnot] at hsub
  exact Bool.noConfusion hsub

end World

end TypedTree
