import TypedTree.Proofs.List.Pointwise
import TypedTree.Proofs.World.Ancestry

/-! # Type arguments in the place of others

A type argument that satisfies the one asked for stands for fewer values, and satisfies whatever
that one satisfies. Both rest on subtypes of subtypes being subtypes. -/

namespace TypedTree

variable {c : Catalog} {given middle wanted : Ty}

theorem Catalog.SubtypeTree.mem_lineage_trans (h : c.SubtypeTree) {t u a : TypeId}
    (hu : u ∈ c.lineage t) (ha : a ∈ c.lineage u) : a ∈ c.lineage t := by
  rw [← c.isSubtype_iff] at hu ha ⊢
  exact h.trans t u a hu ha

namespace ArgumentFits

/-- What matches a type argument matches every description that the argument satisfies. -/
theorem matches_of_matches (hc : c.SubtypeTree) (h : ArgumentFits c given wanted) {v : Value}
    (hv : given.Matches c v) : wanted.Matches c v := by
  induction h with
  | any => exact .any v
  | var given name => exact .var name v
  | bounded _ ih => exact .bounded (ih hv)
  | union hm _ ih => exact .union hm (ih hv)
  | record ha =>
    cases hv with
    | record ht => exact .record (hc.mem_lineage_trans ht ha)
  | same => exact hv

/-- By induction on what is asked for. Only records and equal descriptions look at the argument
between the two, and a record is satisfied by records alone. -/
theorem trans (hc : c.SubtypeTree) (h : ArgumentFits c given middle)
    (h' : ArgumentFits c middle wanted) : ArgumentFits c given wanted := by
  induction h' with
  | any => exact .any given
  | var _ name => exact .var given name
  | bounded _ ih => exact .bounded (ih h)
  | union hm _ ih => exact .union hm (ih h)
  | record ha =>
    cases h with
    | record ht => exact .record (hc.mem_lineage_trans ht ha)
    | same => exact .record ha
  | same => exact h

end ArgumentFits

/-- How type arguments replace each other. -/
structure Catalog.ArgumentOrder (c : Catalog) : Prop where
  /-- A value that matches the given argument matches the one asked for. -/
  sound : ∀ given wanted, c.argumentMatches given wanted = true →
    ∀ v, given.validate c v = .ok () → wanted.validate c v = .ok ()
  trans : ∀ given middle wanted, c.argumentMatches given middle = true →
    c.argumentMatches middle wanted = true → c.argumentMatches given wanted = true
  /-- A type that was made from the generic type, or derives from such a type, goes on to match when
  its arguments are asked for in wider terms. -/
  widens : ∀ t generic given middle wanted, c.nearestArguments? t generic = some given →
    c.appliesAs t generic middle = true → c.argumentsMatch middle wanted = true →
    c.appliesAs t generic wanted = true

namespace World

/-- Matching of type arguments is sound for validation and transitive in every catalog that
operations can reach. -/
theorem Reachable.argumentOrder {w : World} (hw : Reachable w) : w.catalog.ArgumentOrder where
  sound given wanted h v hv := by
    rw [Catalog.argumentMatches_iff] at h
    rw [Ty.validate_eq_ok_iff] at hv ⊢
    exact h.matches_of_matches hw.subtypeTree hv
  trans given middle wanted h h' := by
    rw [Catalog.argumentMatches_iff] at h h' ⊢
    exact h.trans hw.subtypeTree h'
  widens t generic given middle wanted hn h h' := by
    simp only [Catalog.appliesAs, hn, Catalog.argumentsMatch_iff] at h h' ⊢
    exact forall₂_comp (fun hg hm => hg.trans hw.subtypeTree hm) h h'

/-- The full labeled pair satisfies the half pair, and this a variable that is bounded by nothing or
a pair; so a labeled pair is accepted there. -/
theorem argumentOrder_labeledPairWorld :
    let bound := Ty.union [.scalar .none, .record 0]
    Reachable labeledPairWorld ∧
      labeledPairWorld.catalog.argumentMatches (.record 3) (.var "T" (some bound)) = true ∧
      (Ty.var "T" (some bound)).validate labeledPairWorld.catalog
        (.record ⟨3, [.int 1, .bytes [], .str "one"], none, []⟩) = .ok () := by
  intro bound
  have horder := Reachable.argumentOrder reachable_labeledPairWorld
  have hfits := horder.trans (.record 3) (.record 1) (.var "T" (some bound)) rfl rfl
  exact ⟨reachable_labeledPairWorld, hfits, horder.sound _ _ hfits _ rfl⟩

end World

end TypedTree
