import TypedTree.Proofs.World.Soundness

/-! # Lineages in sound worlds -/

namespace TypedTree.World

variable {w : World} {t u a : TypeId}

theorem lt_length_of_mem_ancestors (ha : a ∈ (w.catalog.schema u).ancestors) :
    u < w.catalog.schemas.length := by
  refine Nat.lt_of_not_le fun hn => ?_
  rw [Catalog.schema_eq_default hn] at ha
  exact absurd ha List.not_mem_nil

/-- A type that derives from something has a parent, which comes before it. -/
theorem Sound.exists_parent (h : w.Sound) (ha : a ∈ (w.catalog.schema u).ancestors) :
    ∃ p < u, (w.catalog.schema u).ancestors = w.catalog.lineage p := by
  cases hc : (w.catalog.schema u).ancestors with
  | nil =>
    rw [hc] at ha
    exact absurd ha List.not_mem_nil
  | cons p rest =>
    obtain ⟨hp, hl⟩ := (h.schema u (lt_length_of_mem_ancestors ha)).parent p (by rw [hc]; rfl)
    exact ⟨p, hp, hc ▸ hl⟩

theorem Sound.lt_of_mem_ancestors (h : w.Sound) (ha : a ∈ (w.catalog.schema u).ancestors) :
    a < u := by
  induction u using Nat.strongRecOn with
  | ind u ih =>
    obtain ⟨p, hp, hl⟩ := h.exists_parent ha
    rw [hl] at ha
    rcases List.mem_cons.mp ha with rfl | ha
    · exact hp
    · exact Nat.lt_trans (ih p hp ha) hp

theorem Sound.le_of_mem_lineage (h : w.Sound) (ha : a ∈ w.catalog.lineage u) : a ≤ u := by
  rcases List.mem_cons.mp ha with rfl | ha
  · exact Nat.le_refl a
  · exact Nat.le_of_lt (h.lt_of_mem_ancestors ha)

/-- A type's lineage ends with the lineage of each type in it, and the types in front of that derive
from it. -/
theorem Sound.lineage_eq_append (h : w.Sound) (ht : t ∈ w.catalog.lineage u) :
    ∃ nearer, w.catalog.lineage u = nearer ++ w.catalog.lineage t ∧
      ∀ s ∈ nearer, t ∈ (w.catalog.schema s).ancestors := by
  induction u using Nat.strongRecOn with
  | ind u ih =>
    rcases List.mem_cons.mp ht with rfl | ht
    · exact ⟨[], rfl, by simp⟩
    · obtain ⟨p, hp, hl⟩ := h.exists_parent ht
      obtain ⟨nearer, ha, hn⟩ := ih p hp (by rw [← hl]; exact ht)
      refine ⟨u :: nearer, ?_, List.forall_mem_cons.mpr ⟨ht, hn⟩⟩
      rw [Catalog.lineage, hl, ha, List.cons_append]

/-- A type made by an application derives from the generic type and what that derives from. -/
theorem Sound.ancestors_of_origin {app : Application} (h : w.Sound)
    (ho : (w.catalog.schema t).origin = some app) :
    (w.catalog.schema t).ancestors = w.catalog.lineage app.generic :=
  (h.makesIn_of_origin ho).ancestors

end TypedTree.World
