import Mathlib.Logic.Relation
import TypedTree.Proofs.World.Derivation

/-! # The order of subtypes

Every type is made with a copy of what its parent derives from. The copies agree: subtyping is
following the parents upwards, which never leads back. -/

namespace TypedTree

/-- The type was made to derive from the other one. -/
def Catalog.HasParent (c : Catalog) (t p : TypeId) : Prop :=
  (c.schema t).parent? = some p

/-- Subtyping is a partial order in which the types above a type form a chain. -/
structure Catalog.SubtypeTree (c : Catalog) : Prop where
  refl : ∀ t, c.isSubtype t t = true
  trans : ∀ t u a, c.isSubtype t u = true → c.isSubtype u a = true → c.isSubtype t a = true
  antisymm : ∀ t u, c.isSubtype t u = true → c.isSubtype u t = true → t = u
  notMem_ancestors : ∀ t, t ∉ (c.schema t).ancestors
  nodup_ancestors : ∀ t, (c.schema t).ancestors.Nodup
  /-- Behind a type in the ancestors of another one stand the ancestors of that type. -/
  ancestors_suffix : ∀ t nearer a further, (c.schema t).ancestors = nearer ++ a :: further →
    further = (c.schema a).ancestors
  comparable : ∀ t a b, a ∈ (c.schema t).ancestors → b ∈ (c.schema t).ancestors →
    c.isSubtype a b = true ∨ c.isSubtype b a = true
  /-- The copied ancestors are those that the parents lead to. -/
  parents : ∀ t a, c.isSubtype t a = true ↔ Relation.ReflTransGen c.HasParent t a

namespace World

variable {w : World} {t u p a : TypeId} {nearer further : List TypeId}

/-! ### Parents -/

theorem hasParent_of_ancestors {c : Catalog} {rest : List TypeId}
    (ha : (c.schema t).ancestors = p :: rest) : c.HasParent t p := by
  rw [Catalog.HasParent, Schema.parent?, ha, List.head?_cons]

theorem Sound.ancestors_of_parent (h : w.Sound) (hp : w.catalog.HasParent t p) :
    (w.catalog.schema t).ancestors = w.catalog.lineage p := by
  have hm : p ∈ (w.catalog.schema t).ancestors := List.mem_of_head? hp
  exact ((h.schema t (lt_length_of_mem_ancestors hm)).parent p hp).2

theorem Sound.reflTransGen_of_mem_lineage (h : w.Sound) (ha : a ∈ w.catalog.lineage t) :
    Relation.ReflTransGen w.catalog.HasParent t a := by
  induction t using Nat.strongRecOn with
  | ind t ih =>
    rcases List.mem_cons.mp ha with rfl | ha
    · exact .refl
    · obtain ⟨p, hp, hl⟩ := h.exists_parent ha
      rw [hl] at ha
      exact .head (hasParent_of_ancestors hl) (ih p hp ha)

theorem Sound.mem_lineage_of_reflTransGen (h : w.Sound)
    (hr : Relation.ReflTransGen w.catalog.HasParent t a) :
    a ∈ w.catalog.lineage t := by
  induction hr using Relation.ReflTransGen.head_induction_on with
  | refl => exact List.mem_cons_self
  | head hp _ ih =>
    rw [Catalog.lineage, h.ancestors_of_parent hp]
    exact List.mem_cons_of_mem _ ih

theorem Sound.isSubtype_iff_reflTransGen (h : w.Sound) :
    w.catalog.isSubtype t a = true ↔ Relation.ReflTransGen w.catalog.HasParent t a := by
  rw [Catalog.isSubtype_iff]
  exact ⟨h.reflTransGen_of_mem_lineage, h.mem_lineage_of_reflTransGen⟩

/-! ### Ancestors -/

/-- Each ancestor is older than the ones in front of it. -/
theorem Sound.pairwise_ancestors (h : w.Sound) (t : TypeId) :
    (w.catalog.schema t).ancestors.Pairwise (· > ·) := by
  induction t using Nat.strongRecOn with
  | ind t ih =>
    cases hc : (w.catalog.schema t).ancestors with
    | nil => exact .nil
    | cons a rest =>
      obtain ⟨p, hp, hl⟩ := h.exists_parent (u := t) (a := a) (by simp [hc])
      rw [← hc, hl]
      exact .cons (fun a ha => h.lt_of_mem_ancestors ha) (ih p hp)

/-- The ancestors of a type are reached by way of those in front of it. -/
theorem Sound.ancestors_of_append (h : w.Sound)
    (ha : (w.catalog.schema t).ancestors = nearer ++ a :: further) :
    further = (w.catalog.schema a).ancestors := by
  induction nearer generalizing t with
  | nil =>
    have hl := h.ancestors_of_parent (hasParent_of_ancestors ha)
    exact (List.cons.inj (ha.symm.trans hl)).2
  | cons p nearer ih =>
    have hl := h.ancestors_of_parent (hasParent_of_ancestors ha)
    exact ih (List.cons.inj (hl.symm.trans ha)).2

theorem Sound.isSubtype_antisymm (h : w.Sound) (htu : w.catalog.isSubtype t u = true)
    (hut : w.catalog.isSubtype u t = true) : t = u := by
  rw [Catalog.isSubtype_iff] at htu hut
  exact Nat.le_antisymm (h.le_of_mem_lineage hut) (h.le_of_mem_lineage htu)

theorem Sound.isSubtype_total (h : w.Sound) {b : TypeId} (hta : w.catalog.isSubtype t a = true)
    (htb : w.catalog.isSubtype t b = true) :
    w.catalog.isSubtype a b = true ∨ w.catalog.isSubtype b a = true := by
  rw [h.isSubtype_iff_reflTransGen] at hta htb
  simp only [h.isSubtype_iff_reflTransGen]
  -- A type has one parent at most.
  have hunique : Relator.RightUnique w.catalog.HasParent := by
    intro t p q hp hq
    exact Option.some.inj (hp.symm.trans hq)
  exact hta.total_of_right_unique hunique htb

theorem isSubtype_of_mem_ancestors {c : Catalog} (ha : a ∈ (c.schema t).ancestors) :
    c.isSubtype t a = true :=
  (Catalog.isSubtype_iff ..).mpr (List.mem_cons_of_mem t ha)

/-- Whatever types are declared and made by applications, in whatever order, their subtyping is a
partial order in which the types above a type form a chain. -/
theorem Reachable.subtypeTree (hw : Reachable w) : w.catalog.SubtypeTree where
  refl _ := (Catalog.isSubtype_iff ..).mpr List.mem_cons_self
  trans _ _ _ := hw.sound.isSubtype_trans
  antisymm _ _ := hw.sound.isSubtype_antisymm
  notMem_ancestors _ ht := Nat.lt_irrefl _ (hw.sound.lt_of_mem_ancestors ht)
  nodup_ancestors t := (hw.sound.pairwise_ancestors t).imp fun h => Nat.ne_of_gt h
  ancestors_suffix _ _ _ _ := hw.sound.ancestors_of_append
  comparable _ _ _ ha hb :=
    hw.sound.isSubtype_total (isSubtype_of_mem_ancestors ha) (isSubtype_of_mem_ancestors hb)
  parents _ _ := hw.sound.isSubtype_iff_reflTransGen

/-- A declaration that derives from the half pair and adds a label. -/
def labeledPairDeclaration : Declaration where
  session := 0
  name := "LabeledPair"
  parent := some 1
  fields := [{ name := "label", type := some (.scalar .str) }]

/-- The world in which the labeled pair is declared and applied to byte strings. -/
def labeledPairWorld : World :=
  (halfPairWorld.after (.declare labeledPairDeclaration)).after (.specialize 2 [.scalar .bytes])

theorem reachable_labeledPairWorld : Reachable labeledPairWorld := by
  have hdeclared : Reachable (halfPairWorld.after (.declare labeledPairDeclaration)) :=
    reachable_halfPairWorld.step trivial ⟨by decide, by decide⟩
  exact hdeclared.step trivial trivial

/-- The full labeled pair derives from the open one, this from the half pair, and this from the
declared pair. -/
theorem subtypeTree_labeledPairWorld : labeledPairWorld.catalog.SubtypeTree ∧
    (labeledPairWorld.catalog.schema 3).ancestors = [2, 1, 0] ∧
    [0] = (labeledPairWorld.catalog.schema 1).ancestors :=
  have htree := Reachable.subtypeTree reachable_labeledPairWorld
  ⟨htree, rfl, htree.ancestors_suffix 3 [2] 1 [0] rfl⟩

end World

end TypedTree
