import Mathlib.Data.List.GetD
import TypedTree.Proofs.Ty.Substitution

/-! # Catalogs that grow -/

namespace TypedTree

namespace Catalog

/-- All types of the first catalog are types of the second one, with the same schemas. -/
def Extends (c c' : Catalog) : Prop :=
  c.schemas <+: c'.schemas

variable {c c' c'' : Catalog} {t generic : TypeId}

theorem Extends.of_eq (h : c'.schemas = c.schemas) : c.Extends c' :=
  ⟨[], by rw [List.append_nil, h]⟩

theorem Extends.refl (c : Catalog) : c.Extends c :=
  .of_eq rfl

theorem Extends.trans (h : c.Extends c') (h' : c'.Extends c'') : c.Extends c'' :=
  List.IsPrefix.trans h h'

theorem Extends.length_le (h : c.Extends c') : c.schemas.length ≤ c'.schemas.length :=
  List.IsPrefix.length_le h

theorem extends_addSchema (c : Catalog) (s : Schema) : c.Extends (c.addSchema s).2 :=
  List.prefix_append c.schemas [s]

theorem Extends.schema_eq (h : c.Extends c') (ht : t < c.schemas.length) :
    c'.schema t = c.schema t := by
  obtain ⟨added, h⟩ := h
  rw [schema, schema, ← h, List.getD_append _ _ _ _ ht]

theorem Extends.lineage_eq (h : c.Extends c') (ht : t < c.schemas.length) :
    c'.lineage t = c.lineage t := by
  rw [lineage, lineage, h.schema_eq ht]

theorem schema_addSchema (c : Catalog) (s : Schema) :
    (c.addSchema s).2.schema c.schemas.length = s := by
  rw [schema, addSchema, List.getD_append_right _ _ _ _ (Nat.le_refl _), Nat.sub_self]
  rfl

theorem length_addSchema (c : Catalog) (s : Schema) :
    (c.addSchema s).2.schemas.length = c.schemas.length + 1 := by
  simp [addSchema]

/-- A type of the catalog with a schema added is an earlier one or the added one. -/
theorem lt_or_eq_of_lt_addSchema {s : Schema} (h : t < (c.addSchema s).2.schemas.length) :
    t < c.schemas.length ∨ t = c.schemas.length := by
  rw [length_addSchema] at h
  exact Nat.lt_or_eq_of_le (Nat.le_of_lt_succ h)

theorem schema_of_eq (h : c'.schemas = c.schemas) : c'.schema = c.schema := by
  funext t
  rw [schema, schema, h]

/-! ### Types that are not there -/

theorem schema_eq_default (h : c.schemas.length ≤ t) : c.schema t = default :=
  List.getD_eq_default _ _ h

theorem lt_length_of_params (h : (c.schema t).params ≠ []) : t < c.schemas.length := by
  refine Nat.lt_of_not_le fun hn => ?_
  rw [schema_eq_default hn] at h
  exact h rfl

theorem lt_length_of_hashable (h : (c.schema t).flags.hashable = true) : t < c.schemas.length := by
  refine Nat.lt_of_not_le fun hn => ?_
  rw [schema_eq_default hn] at h
  exact Bool.noConfusion h

theorem lt_length_of_scope (h : (c.schema t).flags.scope = true) : t < c.schemas.length := by
  refine Nat.lt_of_not_le fun hn => ?_
  rw [schema_eq_default hn] at h
  exact Bool.noConfusion h

theorem lt_length_of_origin {app : Application} (h : (c.schema t).origin = some app) :
    t < c.schemas.length := by
  refine Nat.lt_of_not_le fun hn => ?_
  rw [schema_eq_default hn] at h
  cases h

end Catalog

/-! ### Well-formed descriptions stay well formed -/

namespace Ty

variable {c c' : Catalog}

theorem allHashable_iff (ts : List Ty) :
    allHashable c ts = true ↔ ∀ t ∈ ts, t.isHashable c = true := by
  induction ts with
  | nil => simp [allHashable]
  | cons t ts ih => simp [allHashable, ih]

theorem isHashable_mono (h : c.Extends c') {t : Ty} (ht : t.isHashable c = true) :
    t.isHashable c' = true := by
  induction t using Ty.induction with
  | any | scalar | literal | enum | var | bounded => rfl
  | list | set | map => exact Bool.noConfusion ht
  | optional inner ih => exact ih ht
  | union parts ih | tuple parts ih =>
    exact (allHashable_iff _).mpr fun t hm => ih t hm ((allHashable_iff _).mp ht t hm)
  | record t | apply t =>
    rw [isHashable, h.schema_eq (Catalog.lt_length_of_hashable ht)]
    exact ht

/-- More types and more variables in scope keep a description well formed. -/
theorem check_mono {scope scope' : Option (List TyVar)} (h : c.Extends c')
    (hs : ∀ name, inScope scope name = true → inScope scope' name = true) {t : Ty}
    (ht : t.check c scope = .ok ()) : t.check c' scope' = .ok () := by
  induction t using Ty.induction with
  | any | scalar | enum | record => rfl
  | literal => exact ht
  | optional inner ih | list inner ih => exact ih ht
  | union alternatives ih =>
    rw [check_union_eq_ok_iff] at ht ⊢
    exact ⟨ht.1, fun t hm => ih t hm (ht.2 t hm)⟩
  | tuple elements ih =>
    exact (checkAll_eq_ok_iff _).mpr fun t hm => ih t hm ((checkAll_eq_ok_iff _).mp ht t hm)
  | set element ih =>
    rw [check_set_eq_ok_iff] at ht ⊢
    exact ⟨ih ht.1, isHashable_mono h ht.2⟩
  | map key value ihk ihv =>
    rw [check_map_eq_ok_iff] at ht ⊢
    exact ⟨ihk ht.1, ihv ht.2.1, isHashable_mono h ht.2.2⟩
  | var name | bounded name =>
    rw [check] at ht ⊢
    by_cases hn : inScope scope name
    · rw [if_pos (hs name hn)]
    · rw [if_neg hn] at ht
      cases ht
  | apply generic arguments ih =>
    rw [check_apply_eq_ok_iff] at ht ⊢
    rw [h.schema_eq (Catalog.lt_length_of_params ht.1)]
    exact ⟨ht.1, ht.2.1, fun t hm => ih t hm (ht.2.2 t hm)⟩

theorem check_of_extends {scope : Option (List TyVar)} (h : c.Extends c') {t : Ty}
    (ht : t.check c scope = .ok ()) : t.check c' scope = .ok () :=
  check_mono h (fun _ hn => hn) ht

end Ty

end TypedTree
