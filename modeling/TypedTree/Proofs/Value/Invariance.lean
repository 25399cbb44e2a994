import TypedTree.Proofs.List.Pointwise
import TypedTree.Proofs.Value.Relabeling

/-! # What does not depend on what nodes carry besides their fields -/

namespace TypedTree

variable {c : Catalog} {g : Relabeling}

namespace Value

/-! ### Shapes -/

@[simp] theorem asString?_relabel (v : Value) : (v.relabel c g).asString? = v.asString? := by
  cases v <;> rfl

theorem eq_of_relabel_isAtom {v u : Value} (h : v.relabel c g = u) (hu : u.isAtom = true) :
    v = u := by
  subst h
  cases v <;> first | rfl | cases hu

theorem eq_tuple_of_relabel {v : Value} {items : List Value} (h : v.relabel c g = tuple items) :
    ∃ xs, v = tuple xs ∧ items = xs.map (relabel c g) := by
  cases v with
  | tuple xs => exact ⟨xs, rfl, by simpa using h.symm⟩
  | _ => cases h

theorem eq_list_of_relabel {v : Value} {items : List Value} (h : v.relabel c g = list items) :
    ∃ xs, v = list xs ∧ items = xs.map (relabel c g) := by
  cases v with
  | list xs => exact ⟨xs, rfl, by simpa using h.symm⟩
  | _ => cases h

theorem eq_set_of_relabel {v : Value} {items : List Value} (h : v.relabel c g = set items) :
    ∃ xs, v = set xs ∧ items = xs.map (relabel c g) := by
  cases v with
  | set xs => exact ⟨xs, rfl, by simpa using h.symm⟩
  | _ => cases h

theorem eq_map_of_relabel {v : Value} {entries : List (Value × Value)}
    (h : v.relabel c g = map entries) :
    ∃ es, v = map es ∧ entries = es.map fun e => (e.1, e.2.relabel c g) := by
  cases v with
  | map es => exact ⟨es, rfl, by simpa using h.symm⟩
  | _ => cases h

theorem eq_record_of_relabel {v : Value} {r : Record} (h : v.relabel c g = record r) :
    ∃ s, v = record s ∧ r = s.relabel c g := by
  cases v with
  | record s => exact ⟨s, rfl, by simpa using h.symm⟩
  | _ => cases h

/-! ### Hashable values -/

theorem allHashable_iff (vs : List Value) :
    allHashable c vs = true ↔ ∀ v ∈ vs, v.isHashable c = true := by
  induction vs with
  | nil => simp [allHashable]
  | cons v vs ih => simp [allHashable, ih]

theorem isHashable_relabel_iff (v : Value) :
    (v.relabel c g).isHashable c = true ↔ v.isHashable c = true := by
  induction v using Value.induction with
  | atom v hv => rw [relabel_of_isAtom hv]
  | tuple items ih =>
    rw [relabel_tuple, isHashable, isHashable, allHashable_iff, allHashable_iff,
      List.forall_mem_map]
    exact forall₂_congr ih
  | list | set | map => simp [isHashable]
  | record r => rw [relabel_record, isHashable, isHashable, Record.schema_relabel]

end Value

/-! ### Matching -/

namespace Ty

variable {t : Ty} {v : Value}

theorem Matches.relabel (h : t.Matches c v) (g : Relabeling) : t.Matches c (v.relabel c g) := by
  induction h with
  | any v => exact .any _
  | @scalar s v h =>
    have hv : v.isAtom = true := by cases h <;> rfl
    rw [Value.relabel_of_isAtom hv]
    exact .scalar h
  | @literal l literals h =>
    have hv : l.toValue.isAtom = true := by cases l <;> rfl
    rw [Value.relabel_of_isAtom hv]
    exact .literal h
  | absent inner => exact .absent inner
  | present _ ih => exact .present ih
  | union h _ ih => exact .union h ih
  | @tuple elements items hl _ ih =>
    rw [Value.relabel_tuple]
    refine .tuple (by simpa using hl) fun p hp => ?_
    rw [List.zip_map_right] at hp
    obtain ⟨q, hq, rfl⟩ := List.mem_map.mp hp
    exact ih q hq
  | list _ ih =>
    rw [Value.relabel_list]
    exact .list (List.forall_mem_map.mpr ih)
  | set _ ih =>
    rw [Value.relabel_set]
    exact .set (List.forall_mem_map.mpr ih)
  | map hk _ _ ihv =>
    rw [Value.relabel_map]
    exact .map (List.forall_mem_map.mpr hk) (List.forall_mem_map.mpr ihv)
  | enum m => exact .enum m
  | record h =>
    rw [Value.relabel_record]
    refine .record ?_
    rwa [Record.type_relabel]
  | var name => exact .var name _
  | bounded _ ih => exact .bounded ih
  | apply h =>
    rw [Value.relabel_record]
    refine .apply ?_
    rwa [Record.type_relabel]

theorem Matches.of_relabel (h : t.Matches c (v.relabel c g)) : t.Matches c v := by
  generalize hu : v.relabel c g = u at h
  induction h generalizing v with
  | any => exact .any v
  | @scalar s u h =>
    have hatom : u.isAtom = true := by cases h <;> rfl
    rw [Value.eq_of_relabel_isAtom hu hatom]
    exact .scalar h
  | @literal l literals h =>
    have hatom : l.toValue.isAtom = true := by cases l <;> rfl
    rw [Value.eq_of_relabel_isAtom hu hatom]
    exact .literal h
  | absent inner =>
    rw [Value.eq_of_relabel_isAtom hu rfl]
    exact .absent inner
  | present _ ih => exact .present (ih hu)
  | union h _ ih => exact .union h (ih hu)
  | tuple hl _ ih =>
    obtain ⟨xs, rfl, rfl⟩ := Value.eq_tuple_of_relabel hu
    refine .tuple (by simpa using hl) fun p hp => ?_
    have hmap := List.mem_map_of_mem (f := Prod.map id (Value.relabel c g)) hp
    rw [← List.zip_map_right] at hmap
    exact ih _ hmap rfl
  | list _ ih =>
    obtain ⟨xs, rfl, rfl⟩ := Value.eq_list_of_relabel hu
    exact .list fun x hx => ih _ (List.mem_map_of_mem hx) rfl
  | set _ ih =>
    obtain ⟨xs, rfl, rfl⟩ := Value.eq_set_of_relabel hu
    exact .set fun x hx => ih _ (List.mem_map_of_mem hx) rfl
  | map hk _ _ ihv =>
    obtain ⟨es, rfl, rfl⟩ := Value.eq_map_of_relabel hu
    rw [List.forall_mem_map] at hk ihv
    exact .map hk fun e he => ihv e he rfl
  | enum m =>
    rw [Value.eq_of_relabel_isAtom hu rfl]
    exact .enum m
  | record h =>
    obtain ⟨s, rfl, rfl⟩ := Value.eq_record_of_relabel hu
    exact .record (by simpa using h)
  | var name => exact .var name v
  | bounded _ ih => exact .bounded (ih hu)
  | apply h =>
    obtain ⟨s, rfl, rfl⟩ := Value.eq_record_of_relabel hu
    exact .apply (by simpa using h)

theorem validate_relabel_iff (t : Ty) (v : Value) :
    t.validate c (v.relabel c g) = .ok () ↔ t.validate c v = .ok () := by
  rw [validate_eq_ok_iff, validate_eq_ok_iff]
  exact ⟨.of_relabel, fun h => h.relabel g⟩

end Ty

/-! ### Equality -/

namespace Value

/-- Relabeling one of two records does not change whether they agree in their fields, if that is so
for each of its values. -/
theorem fieldsEqual_relabel_iff {r : Record} {ys : List Value}
    (ih : ∀ x ∈ r.values, ∀ y, (x.relabel c g).Equal c y ↔ x.Equal c y) :
    FieldsEqual c (r.schema c).fields (r.relabel c g).values ys ↔
      FieldsEqual c (r.schema c).fields r.values ys := by
  refine forall₂_congr fun i f => ?_
  constructor
  · intro h x y hf hx hy he
    have hequal := h _ y hf (by rw [Record.values_relabel, getElem?_mapFields hf, hx,
      Option.map_some]) hy he
    split at hequal
    · exact (ih x (List.mem_of_getElem? hx) y).mp hequal
    · exact hequal
  · intro h x y hf hx hy he
    rw [Record.values_relabel, getElem?_mapFields hf, Option.map_eq_some_iff] at hx
    obtain ⟨x, hx, rfl⟩ := hx
    split
    · exact (ih x (List.mem_of_getElem? hx) y).mpr (h x y hf hx hy he)
    · exact h x y hf hx hy he

theorem relabel_equal_iff (a b : Value) : (a.relabel c g).Equal c b ↔ a.Equal c b := by
  -- Only one side is relabeled, so that the induction can go on with any value on the other.
  induction a using Value.induction generalizing b with
  | atom v hv => rw [relabel_of_isAtom hv]
  | tuple items ih =>
    cases b with
    | tuple ys =>
      rw [relabel_tuple, Equal, Equal, eqv, eqv, eqvAll_iff, eqvAll_iff, List.forall₂_map_left_iff]
      exact forall₂_congr_of_mem ih
    | _ => simp [eqv]
  | list items ih =>
    cases b with
    | list ys =>
      rw [relabel_list, Equal, Equal, eqv, eqv, eqvAll_iff, eqvAll_iff, List.forall₂_map_left_iff]
      exact forall₂_congr_of_mem ih
    | _ => simp [eqv]
  | set items ih =>
    cases b with
    | set ys =>
      rw [relabel_set, Equal, Equal, set_eqv_iff, set_eqv_iff, List.length_map, Covers, Covers,
        List.forall_mem_map]
      refine and_congr_right fun _ => forall₂_congr fun x hx => exists_congr fun y => ?_
      exact and_congr_right fun _ => ih x hx y
    | _ => simp [eqv]
  | map entries ih =>
    cases b with
    | map es =>
      rw [relabel_map, Equal, Equal, eqv, eqv, Bool.and_eq_true, Bool.and_eq_true,
        subsetEntries_iff, subsetEntries_iff, List.length_map, List.forall_mem_map]
      refine and_congr_right fun _ => forall₂_congr fun e he => exists_congr fun y => ?_
      exact and_congr_right fun _ => (ih e he).2 y.2
    | _ => simp [eqv]
  | record r ih =>
    cases b with
    | record s =>
      rw [relabel_record, Equal, Equal, eqv, eqv, Record.eqv_iff, Record.eqv_iff,
        Record.type_relabel, Record.schema_relabel]
      exact and_congr_right fun _ => fieldsEqual_relabel_iff ih
    | _ => simp [eqv]

/-! ### Values that are put together properly -/

/-- Equality is symmetric, so the other value may be relabeled as well. -/
theorem Proper.equal_relabel_iff {a b : Value} (ha : Proper c a) (ha' : Proper c (a.relabel c g))
    (hb : Proper c b) : b.Equal c (a.relabel c g) ↔ b.Equal c a := by
  have hP := symmTransOn_proper c
  constructor
  · exact fun h => hP.symm ha hb ((relabel_equal_iff a b).mp (hP.symm hb ha' h))
  · exact fun h => hP.symm ha' hb ((relabel_equal_iff a b).mpr (hP.symm hb ha h))

theorem distinct_relabel_iff {xs : List Value} (h : ∀ x ∈ xs, Proper c x)
    (h' : ∀ x ∈ xs, Proper c (x.relabel c g)) :
    Distinct c (xs.map (relabel c g)) ↔ Distinct c xs := by
  have hiff : ∀ x ∈ xs, ∀ y ∈ xs, (x.relabel c g).Equal c (y.relabel c g) ↔ x.Equal c y := by
    intro x hx y hy
    rw [relabel_equal_iff, (h y hy).equal_relabel_iff (h' y hy) (h x hx)]
  rw [Distinct, List.pairwise_map]
  constructor
  · exact fun hd => hd.imp_of_mem fun hx hy => mt (hiff _ hx _ hy).mpr
  · exact fun hd => hd.imp_of_mem fun hx hy => mt (hiff _ hx _ hy).mp

theorem Proper.relabel {v : Value} (h : Proper c v) (g : Relabeling) :
    Proper c (v.relabel c g) := by
  induction h with
  | atom h =>
    rw [relabel_of_isAtom h]
    exact .atom h
  | tuple _ ih =>
    rw [relabel_tuple]
    exact .tuple (List.forall_mem_map.mpr ih)
  | list _ ih =>
    rw [relabel_list]
    exact .list (List.forall_mem_map.mpr ih)
  | set h hd ih =>
    rw [relabel_set]
    exact .set (List.forall_mem_map.mpr ih) ((distinct_relabel_iff h ih).mpr hd)
  | @map es hk _ hd _ ihv =>
    have hkeys : (es.map fun e => (e.1, e.2.relabel c g)).map (·.1) = es.map (·.1) := by
      rw [List.map_map]
      rfl
    rw [relabel_map]
    exact .map (List.forall_mem_map.mpr hk) (List.forall_mem_map.mpr ihv) (hkeys ▸ hd)
  | @record r ht hl h ih =>
    rw [relabel_record]
    refine .record ?_ ?_ fun v hv => ?_
    · rwa [Record.type_relabel]
    · rwa [Record.values_relabel, length_mapFields, Record.schema_relabel]
    · rw [Record.values_relabel] at hv
      rcases mem_mapFields hv with hv | ⟨x, hx, rfl⟩
      · exact h v hv
      · exact ih x hx

theorem Proper.of_relabel {v : Value} (h : Proper c (v.relabel c g)) : Proper c v := by
  induction v using Value.induction with
  | atom v hv => exact .atom hv
  | tuple items ih =>
    rw [relabel_tuple] at h
    exact .tuple fun x hx => ih x hx (h.of_mem_parts (List.mem_map_of_mem hx))
  | list items ih =>
    rw [relabel_list] at h
    exact .list fun x hx => ih x hx (h.of_mem_parts (List.mem_map_of_mem hx))
  | set items ih =>
    rw [relabel_set] at h
    have hrelabeled : ∀ x ∈ items, Proper c (x.relabel c g) :=
      fun x hx => h.of_mem_parts (List.mem_map_of_mem hx)
    have hproper := fun x hx => ih x hx (hrelabeled x hx)
    exact .set hproper ((distinct_relabel_iff hproper hrelabeled).mp h.distinct_set)
  | map entries ih =>
    rw [relabel_map] at h
    have hparts := forall_parts_map_iff.mp fun x hx => h.of_mem_parts hx
    rw [List.forall_mem_map] at hparts
    have hkeys := h.distinct_keys
    rw [List.map_map] at hkeys
    exact .map (fun e he => (hparts e he).1) (fun e he => (ih e he).2 (hparts e he).2) hkeys
  | record r ih =>
    rw [relabel_record] at h
    have ht := h.lt_length
    have hl := h.length_values
    rw [Record.type_relabel] at ht
    rw [Record.values_relabel, length_mapFields, Record.schema_relabel] at hl
    refine .record ht hl fun x hx => ?_
    obtain ⟨i, hi, rfl⟩ := List.mem_iff_getElem.mp hx
    have hf : (r.schema c).fields[i]? = some (r.schema c).fields[i] :=
      List.getElem?_eq_getElem (hl ▸ hi)
    have hv : (r.relabel c g).values[i]? = r.values[i]?.map fun v =>
        if g.enters r.isNode (r.schema c).fields[i] then v.relabel c g else v := by
      rw [Record.values_relabel, getElem?_mapFields hf]
    rw [List.getElem?_eq_getElem hi, Option.map_some] at hv
    have hp := h.of_mem_parts (List.mem_of_getElem? hv)
    split at hp
    · exact ih _ hx hp
    · exact hp

/-! ### Values that differ in what is relabeled only -/

/-- Relabeling makes the two values the same. -/
def SameUpTo (c : Catalog) (g : Relabeling) (v v' : Value) : Prop :=
  v.relabel c g = v'.relabel c g

namespace SameUpTo

variable {v v' : Value}

theorem symm (h : SameUpTo c g v v') : SameUpTo c g v' v :=
  Eq.symm h

theorem validate_iff (h : SameUpTo c g v v') (t : Ty) :
    t.validate c v = .ok () ↔ t.validate c v' = .ok () := by
  rw [← Ty.validate_relabel_iff (g := g), h, Ty.validate_relabel_iff]

theorem isHashable_iff (h : SameUpTo c g v v') :
    v.isHashable c = true ↔ v'.isHashable c = true := by
  rw [← isHashable_relabel_iff (g := g), h, isHashable_relabel_iff]

theorem proper (h : SameUpTo c g v v') (hp : Proper c v) : Proper c v' := by
  refine .of_relabel (g := g) ?_
  rw [← h]
  exact hp.relabel g

theorem equal (h : SameUpTo c g v v') (hp : Proper c v) : v.Equal c v' := by
  rw [← relabel_equal_iff (g := g), h, relabel_equal_iff]
  exact (h.proper hp).eqv_refl

end SameUpTo

end Value

end TypedTree
