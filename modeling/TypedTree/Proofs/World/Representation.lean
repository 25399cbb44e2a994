import TypedTree.Proofs.Schema.Representation
import TypedTree.Proofs.World.Derivation

/-! # What all schemas that operations can reach look like -/

namespace TypedTree

/-! ### Regular catalogs -/

/-- All schemas are regular and inherit from their parents. -/
structure Catalog.Regular (c : Catalog) : Prop where
  schema : ∀ t < c.schemas.length, (c.schema t).Regular c
  parent : ∀ t < c.schemas.length, ∀ p, (c.schema t).ancestors.head? = some p →
    (c.schema t).Inherits (c.schema p)

namespace World

variable {w w' w₁ : World} {generic t a : TypeId} {arguments : List Ty} {s : Schema}

theorem regular_parentSchema (hc : w.catalog.Regular) {d : Declaration}
    (hr : (Operation.declare d).Refers w) :
    ∀ p ∈ d.parentSchema? w.catalog, p.Regular w.catalog := by
  intro p hm
  obtain ⟨t, ht, rfl⟩ := Option.map_eq_some_iff.mp hm
  exact hc.schema t (hr.2 t ht)

theorem Sound.regular_addSchema (h : w.Sound) (hc : w.catalog.Regular) (hs : s.Regular w.catalog)
    (hp : ∀ p, s.ancestors.head? = some p →
      p < w.catalog.schemas.length ∧ s.Inherits (w.catalog.schema p)) :
    (w.catalog.addSchema s).2.Regular := by
  have hx := w.catalog.extends_addSchema s
  constructor
  · intro t ht
    rcases Catalog.lt_or_eq_of_lt_addSchema ht with ht | rfl
    · rw [hx.schema_eq ht]
      exact (hc.schema t ht).of_extends hx
    · rw [Catalog.schema_addSchema]
      exact hs.of_extends hx
  · intro t ht p hh
    rcases Catalog.lt_or_eq_of_lt_addSchema ht with ht | rfl
    · rw [hx.schema_eq ht] at hh ⊢
      have hlt := ((h.schema t ht).parent p hh).1
      rw [hx.schema_eq (Nat.lt_trans hlt ht)]
      exact hc.parent t ht p hh
    · rw [Catalog.schema_addSchema] at hh ⊢
      obtain ⟨hlt, hinherits⟩ := hp p hh
      rw [hx.schema_eq hlt]
      exact hinherits

theorem regular_of_eq {c c' : Catalog} (h : c'.schemas = c.schemas) (hc : c.Regular) :
    c'.Regular := by
  have hs := Catalog.schema_of_eq h
  constructor
  · rw [h, hs]
    exact fun t ht => (hc.schema t ht).of_extends (.of_eq h)
  · rw [h, hs]
    exact hc.parent

theorem Sound.regular_after (h : w.Sound) {op : Operation} (hr : op.Refers w)
    (hc : w.catalog.Regular) : (w.after op).catalog.Regular := by
  -- Only the effect matters: a schema is added, built or applied, or none is.
  generalize w.after op = w', w.effect_after op = he
  cases he with
  | sessions hs => exact regular_of_eq hs hc
  | @declared d s ho hb =>
    subst ho
    have hparent := regular_parentSchema hc hr
    refine h.regular_addSchema hc (Declaration.regular_of_build hb hparent) fun p hh => ?_
    rw [(Declaration.shapes_of_build hb hparent).ancestors] at hh
    cases hd : d.parent with
    | none => simp [hd] at hh
    | some t =>
      rw [hd] at hh
      obtain rfl := Option.some.inj hh
      refine ⟨hr.2 t hd, Declaration.inherits_of_build hb hparent _ ?_⟩
      rw [Declaration.parentSchema?, hd]
      rfl
  | @applied app s hf hroot hn hs =>
    have hg := Catalog.lt_length_of_params ((checkApplication_eq_ok_iff _ _).mp hf).1
    refine h.regular_addSchema hc (regular_of_specializedSchema hs (hc.schema _ hg)) fun p hh => ?_
    obtain ⟨⟨name, rfl⟩, -⟩ := specializedSchema_eq_ok hs
    obtain rfl := Option.some.inj hh
    exact ⟨hg, inherits_of_specializedSchema hs⟩

theorem Reachable.regular (hw : Reachable w) : w.catalog.Regular := by
  induction hw with
  | refl =>
    have hnone : ∀ t, ¬ t < ({} : World).catalog.schemas.length := fun t => Nat.not_lt_zero t
    exact ⟨fun t ht => absurd ht (hnone t), fun t ht => absurd ht (hnone t)⟩
  | step hu _ hr ih => exact (Reachable.sound hu).regular_after hr ih

/-- The stored indexes are right, and so is the empty one that stands where no type is. -/
theorem Reachable.indexed (hw : Reachable w) : w.catalog.Indexed := by
  intro t
  by_cases ht : t < w.catalog.schemas.length
  · exact (hw.regular.schema t ht).indexed
  · rw [Catalog.schema_eq_default (Nat.le_of_not_lt ht)]
    exact @FieldIndex.indexes_ofFields [] List.nodup_nil

/-- A type inherits from all that it derives from. -/
theorem Sound.inherits_of_mem (h : w.Sound) (hc : w.catalog.Regular)
    (ha : a ∈ (w.catalog.schema t).ancestors) :
    (w.catalog.schema t).Inherits (w.catalog.schema a) := by
  -- Along the lineage: a parent is an earlier type.
  induction t using Nat.strongRecOn with
  | ind t ih =>
    obtain ⟨p, hp, hl⟩ := h.exists_parent ha
    have hparent := hc.parent t (lt_length_of_mem_ancestors ha) p (by rw [hl]; rfl)
    rw [hl] at ha
    rcases List.mem_cons.mp ha with rfl | ha
    · exact hparent
    · exact hparent.trans (ih p hp ha)

/-! ### The representation -/

theorem Reachable.shapes_of_declare {d : Declaration} {c' : Catalog} (hw : Reachable w)
    (hr : (Operation.declare d).Refers w) (hd : w.catalog.declare d = .ok (t, c'))
    (hx : c'.Extends w'.catalog) : d.Shapes w'.catalog (w'.catalog.schema t) := by
  obtain ⟨s, hb, hs⟩ := map_eq_ok_iff.mp hd
  obtain ⟨rfl, rfl⟩ := Prod.mk.inj hs
  have hparent := regular_parentSchema hw.regular hr
  have hlt : w.catalog.schemas.length < (w.catalog.addSchema s).2.schemas.length := by
    rw [Catalog.length_addSchema]
    exact Nat.lt_succ_self _
  have hschema : w'.catalog.schema w.catalog.schemas.length = s :=
    (hx.schema_eq hlt).trans (w.catalog.schema_addSchema s)
  rw [hschema]
  exact (Declaration.shapes_of_build hb hparent).of_extends
    ((w.catalog.extends_addSchema s).trans hx) hr.2

theorem Sound.shapes_of_specialize {allowed : Operation → Prop} (h : w.Sound)
    (hs : w.specialize generic arguments = .ok (t, w₁)) (hr : Run allowed w₁ w') :
    (w'.catalog.rootApplication generic arguments).Shapes w'.catalog (w'.catalog.schema t) := by
  have h' : w'.Sound := hr.sound (h.of_specialize hs)
  have horigin := h.origin_of_specialize hs hr
  obtain ⟨name, hschema⟩ := (h'.makesIn_of_origin horigin).schema
  rw [hschema]
  exact w'.catalog.shapes_appliedSchema _ name

/-- All schemas are regular and inherit from everything that they derive from, and a declaration or
an application shapes its schema for good. -/
theorem representation (hw : Reachable w) :
    (∀ t < w.catalog.schemas.length, (w.catalog.schema t).Regular w.catalog) ∧
    (∀ t, ∀ a ∈ (w.catalog.schema t).ancestors,
      (w.catalog.schema t).Inherits (w.catalog.schema a)) ∧
    (∀ (d : Declaration) t c' w', (Operation.declare d).Refers w →
      w.catalog.declare d = .ok (t, c') → Run (fun _ => True) { w with catalog := c' } w' →
      d.Shapes w'.catalog (w'.catalog.schema t)) ∧
    ∀ generic arguments t w₁ w', w.specialize generic arguments = .ok (t, w₁) →
      Run (fun _ => True) w₁ w' →
      (w'.catalog.rootApplication generic arguments).Shapes w'.catalog (w'.catalog.schema t) := by
  refine ⟨hw.regular.schema, ?_, ?_, ?_⟩
  · intro t a ha
    exact hw.sound.inherits_of_mem hw.regular ha
  · intro d t c' w' href hd hr
    exact hw.shapes_of_declare href hd hr.extends
  · intro generic arguments t w₁ w' hs hr
    exact hw.sound.shapes_of_specialize hs hr

/-! ### A derived type -/

/-- A node type with two fields. -/
def baseDeclaration : Declaration where
  session := 0
  name := "Base"
  kind := .node
  fields := [{ name := "a", type := some (.scalar .int) },
    { name := "b", type := some (.scalar .int) }]
  rootChecks := [0]

/-- A declaration that derives from it, adds a field and declares one of the two again. -/
def derivedDeclaration : Declaration where
  session := 0
  name := "Derived"
  parent := some 0
  fields := [{ name := "c", type := some (.scalar .str) },
    { name := "a", type := some (.scalar .str) }]
  rootChecks := [1]

/-- A world in which the base is declared. -/
def baseWorld : World :=
  (({} : World).after .openSession).after (.declare baseDeclaration)

/-- A world in which both are declared. -/
def derivedWorld : World :=
  baseWorld.after (.declare derivedDeclaration)

theorem reachable_baseWorld : Reachable baseWorld := by
  have hopen : Reachable (({} : World).after .openSession) := Run.refl.step trivial trivial
  exact hopen.step trivial ⟨by decide, by decide⟩

/-- The derived type keeps the two fields in their places. -/
theorem representation_derived :
    Reachable baseWorld ∧ fieldNames (derivedWorld.catalog.schema 1).fields = ["a", "b", "c"] ∧
      (derivedWorld.catalog.schema 1).kind = .node ∧
      (derivedWorld.catalog.schema 1).rootChecks = [0, 1] := by
  obtain ⟨-, -, hdeclared, -⟩ := representation reachable_baseWorld
  have hrefers : (Operation.declare derivedDeclaration).Refers baseWorld := ⟨by decide, by decide⟩
  have hshapes := hdeclared derivedDeclaration 1 derivedWorld.catalog derivedWorld hrefers rfl .refl
  exact ⟨reachable_baseWorld, hshapes.names, hshapes.kind, hshapes.rootChecks⟩

end World

end TypedTree
