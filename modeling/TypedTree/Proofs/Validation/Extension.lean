import TypedTree.Proofs.Validation.Correctness
import TypedTree.Proofs.Value.Equivalence

/-! # Values match the same types when more types are added -/

namespace TypedTree

variable {c c' : Catalog} {t generic : TypeId} {arguments : List Ty}

namespace Catalog

/-- What derives from something is known. -/
theorem mem_lineage_of_extends (hx : c.Extends c') {ancestor : TypeId}
    (h : ancestor ∈ c.lineage t) : ancestor ∈ c'.lineage t := by
  by_cases ht : t < c.schemas.length
  · rwa [hx.lineage_eq ht]
  · rw [lineage, schema_eq_default (Nat.le_of_not_lt ht)] at h
    obtain rfl := List.mem_singleton.mp h
    exact List.mem_cons_self

/-- All types that known types derive from are known. -/
def Closed (c : Catalog) : Prop :=
  ∀ t < c.schemas.length, ∀ ancestor ∈ c.lineage t, ancestor < c.schemas.length

theorem madeFrom_iff_of_extends (hx : c.Extends c') (ht : t < c.schemas.length) :
    c'.MadeFrom t generic ↔ c.MadeFrom t generic := by
  rw [MadeFrom, MadeFrom, hx.schema_eq ht]

end Catalog

theorem ArgumentFits.of_extends (hx : c.Extends c') {given wanted : Ty}
    (h : ArgumentFits c given wanted) : ArgumentFits c' given wanted := by
  induction h with
  | any given => exact .any given
  | var given name => exact .var given name
  | bounded _ ih => exact .bounded ih
  | union hm _ ih => exact .union hm ih
  | record hl => exact .record (Catalog.mem_lineage_of_extends hx hl)
  | same hv hu => exact .same hv hu

theorem Applies.of_extends (hx : c.Extends c') (hc : c.Closed) (ht : t < c.schemas.length)
    (h : Applies c t generic arguments) : Applies c' t generic arguments := by
  cases h with
  | @nearest nearer s further given hl hn ho hf =>
    have hknown : ∀ u ∈ nearer ++ s :: further, u < c.schemas.length := fun u hu =>
      hc t ht u (hl ▸ hu)
    refine .nearest (by rw [hx.lineage_eq ht, hl]) (fun u hu => ?_) ?_
      (hf.imp fun _ _ h => h.of_extends hx)
    · rw [Catalog.madeFrom_iff_of_extends hx (hknown u (List.mem_append_left _ hu))]
      exact hn u hu
    · rw [hx.schema_eq (hknown s (List.mem_append_right _ List.mem_cons_self))]
      exact ho
  | unapplied hn hl hv =>
    rw [← hx.lineage_eq ht] at hl
    refine .unapplied (fun u hu => ?_) hl hv
    rw [hx.lineage_eq ht] at hu
    rw [Catalog.madeFrom_iff_of_extends hx (hc t ht u hu)]
    exact hn u hu

theorem Ty.Matches.of_extends (hx : c.Extends c') (hc : c.Closed) {t : Ty} {v : Value}
    (hp : v.Proper c) (h : t.Matches c v) : t.Matches c' v := by
  induction h with
  | any v => exact .any v
  | scalar h => exact .scalar h
  | literal h => exact .literal h
  | absent inner => exact .absent inner
  | present _ ih => exact .present (ih hp)
  | union h _ ih => exact .union h (ih hp)
  | tuple hl _ ih => exact .tuple hl fun p hm => ih p hm (hp.of_mem_parts (List.of_mem_zip hm).2)
  | list _ ih => exact .list fun item hm => ih item hm (hp.of_mem_parts hm)
  | set _ ih => exact .set fun item hm => ih item hm (hp.of_mem_parts hm)
  | map _ _ ihk ihv =>
    have hparts := Value.forall_parts_map_iff.mp fun x hx => hp.of_mem_parts hx
    exact .map (fun e he => ihk e he (hparts e he).1) fun e he => ihv e he (hparts e he).2
  | enum m => exact .enum m
  | record h => exact .record (Catalog.mem_lineage_of_extends hx h)
  | var name v => exact .var name v
  | bounded _ ih => exact .bounded (ih hp)
  | apply h => exact .apply (h.of_extends hx hc hp.lt_length)

theorem Ty.validate_of_extends (hx : c.Extends c') (hc : c.Closed) {t : Ty} {v : Value}
    (hp : v.Proper c) (h : t.validate c v = .ok ()) : t.validate c' v = .ok () := by
  rw [validate_eq_ok_iff] at h ⊢
  exact h.of_extends hx hc hp

theorem World.Sound.closed_of_extends {w : World} (h : w.Sound) (hx : c.Extends w.catalog) :
    c.Closed := by
  intro t ht ancestor ha
  rw [← hx.lineage_eq ht] at ha
  exact Nat.lt_of_le_of_lt (h.le_of_mem_lineage ha) ht

end TypedTree
