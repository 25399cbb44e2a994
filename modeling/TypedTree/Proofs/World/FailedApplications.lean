import TypedTree.Proofs.Ty.Parts
import TypedTree.Proofs.World.Composition

/-! # When an application fails -/

namespace TypedTree.World

/-- The type of a field when the parameters of the declared generic type are replaced. -/
def appliedType (w : World) (generic : TypeId) (arguments : List Ty) (f : Field) : Ty :=
  f.type.substitute (w.catalog.schema generic).params arguments

/-- The application of a generic type fails only over what has to be hashed. -/
structure FailsByMisfit (w : World) (generic : TypeId) (arguments : List Ty) : Prop where
  fails_iff : (∃ e, w.specialize generic arguments = .error e) ↔
    ∃ f ∈ (w.catalog.schema generic).fields, ∃ fault,
      (w.appliedType generic arguments f).HasMisfit w.catalog fault
  /-- The first field that does not fit is reported, under the name of the application. -/
  reports_first : ∀ e, w.specialize generic arguments = .error e →
    ∃ before f after fault, (w.catalog.schema generic).fields = before ++ f :: after ∧
      (∀ g ∈ before, ∀ fault, ¬ (w.appliedType generic arguments g).HasMisfit w.catalog fault) ∧
      (w.appliedType generic arguments f).HasMisfit w.catalog fault ∧
      e = .invalidType (w.catalog.typeName generic ++ "[" ++
        joinTexts ", " (Ty.texts w.catalog arguments) ++ "]") f.name fault
  /-- No variable is out of scope. -/
  covered : ∀ f ∈ (w.catalog.schema generic).fields, ∀ name,
    (w.appliedType generic arguments f).Mentions name →
      name ∈ (Ty.addVarsAll [] arguments).map (·.name)
  /-- The variables of the arguments are the parameters of the result. -/
  result : ∀ t w', w.specialize generic arguments = .ok (t, w') →
    (w'.catalog.schema t).params = Ty.addVarsAll [] arguments ∧
    (w'.catalog.schema t).fields = (w.catalog.schema generic).fields.map
      fun f => { f with type := w.appliedType generic arguments f }

variable {w w' : World} {generic t : TypeId} {arguments : List Ty} {f : Field} {e : SchemaError}

/-- Where an application succeeds, all its fields are well formed. -/
theorem Sound.check_of_specialize (h : w.Sound) (ho : (w.catalog.schema generic).origin = none)
    (hs : w.specialize generic arguments = .ok (t, w'))
    (hf : f ∈ (w.catalog.schema generic).fields) :
    (w.appliedType generic arguments f).check w.catalog (some (Ty.addVarsAll [] arguments)) =
      .ok () := by
  obtain ⟨-, -, hy⟩ := specialize_eq_ok_iff.mp hs
  rw [rootApplication_of_declared ho] at hy
  cases hy with
  | remembered hm =>
    have hmade := h.made_of_remembered hm
    have hg := (h.schema t hmade.lt).fields { f with type := w.appliedType generic arguments f }
    rw [h.params_of_remembered hm, h.fields_of_remembered hm] at hg
    exact hg (List.mem_map.mpr ⟨f, hf, rfl⟩)
  | made _ hmade =>
    obtain ⟨fields, hmade, -⟩ := map_eq_ok_iff.mp hmade
    exact (specializeFields_eq_ok_iff.mp hmade).2 f hf

/-- An application fails at the first field that is not well formed. -/
theorem exists_check_of_specialize (ho : (w.catalog.schema generic).origin = none)
    (hc : checkApplication w.catalog generic arguments = .ok ())
    (hs : w.specialize generic arguments = .error e) :
    ∃ before f after fault, (w.catalog.schema generic).fields = before ++ f :: after ∧
      (∀ g ∈ before, (w.appliedType generic arguments g).check w.catalog
        (some (Ty.addVarsAll [] arguments)) = .ok ()) ∧
      (w.appliedType generic arguments f).check w.catalog (some (Ty.addVarsAll [] arguments)) =
        .error fault ∧
      e = .invalidType (w.catalog.typeName generic ++ "[" ++
        joinTexts ", " (Ty.texts w.catalog arguments) ++ "]") f.name fault := by
  rw [specialize_of_declared hc ho] at hs
  exact specializeFields_eq_error (map_eq_error_iff.mp (specializedSchema_of_applyRoot hs))

/-- The field at which an application fails has a misfit. The fields in front of it have none. -/
theorem Sound.exists_hasMisfit_of_specialize (h : w.Sound)
    (ho : (w.catalog.schema generic).origin = none)
    (hc : checkApplication w.catalog generic arguments = .ok ())
    (hs : w.specialize generic arguments = .error e) :
    ∃ before f after fault, (w.catalog.schema generic).fields = before ++ f :: after ∧
      (∀ g ∈ before, ∀ fault, ¬ (w.appliedType generic arguments g).HasMisfit w.catalog fault) ∧
      (w.appliedType generic arguments f).HasMisfit w.catalog fault ∧
      e = .invalidType (w.catalog.typeName generic ++ "[" ++
        joinTexts ", " (Ty.texts w.catalog arguments) ++ "]") f.name fault := by
  obtain ⟨hg, hl, ha⟩ := (checkApplication_eq_ok_iff generic arguments).mp hc
  obtain ⟨before, f, after, fault, hsplit, hb, hf, he⟩ := exists_check_of_specialize ho hc hs
  have hm : f ∈ (w.catalog.schema generic).fields := by simp [hsplit]
  have hcheck := (h.schema generic (Catalog.lt_length_of_params hg)).fields f hm
  refine ⟨before, f, after, fault, hsplit, ?_, ?_, he⟩
  · intro g hg fault hmisfit
    exact hmisfit.check_ne_ok (hb g hg)
  · exact Ty.hasMisfit_of_check_substitute hcheck hl.symm ha hf

/-- A declared generic type can be applied to any well-formed arguments, one for each parameter,
unless a set or a map in one of its fields would come to hold what it cannot hash. -/
theorem Reachable.failsByMisfit (hw : Reachable w)
    (ho : (w.catalog.schema generic).origin = none)
    (hg : (w.catalog.schema generic).params ≠ [])
    (hl : arguments.length = (w.catalog.schema generic).params.length)
    (ha : ∀ a ∈ arguments, a.check w.catalog none = .ok ()) :
    w.FailsByMisfit generic arguments := by
  have hsound := hw.sound
  have hc := (checkApplication_eq_ok_iff generic arguments).mpr ⟨hg, hl, ha⟩
  refine ⟨⟨?_, ?_⟩, ?_, ?_, ?_⟩
  · rintro ⟨e, hs⟩
    obtain ⟨before, f, after, fault, hsplit, -, hmisfit, -⟩ :=
      hsound.exists_hasMisfit_of_specialize ho hc hs
    exact ⟨f, by simp [hsplit], fault, hmisfit⟩
  · rintro ⟨f, hf, fault, hmisfit⟩
    cases hs : w.specialize generic arguments with
    | error e => exact ⟨e, rfl⟩
    | ok p => exact absurd (hsound.check_of_specialize ho hs hf) hmisfit.check_ne_ok
  · intro e hs
    exact hsound.exists_hasMisfit_of_specialize ho hc hs
  · intro f hf name hn
    have hcheck := (hsound.schema generic (Catalog.lt_length_of_params hg)).fields f hf
    obtain ⟨a, ha, hn⟩ := hn.of_substitute hl.symm fun name hn => hn.mem_scope hcheck
    exact Ty.mem_addVarsAll_iff.mpr (.inr ⟨a, ha, hn⟩)
  · intro t w' hs
    have hm := hsound.remembered_of_specialize hs
    rw [rootApplication_of_declared ho] at hm
    have hsound' := hsound.of_specialize hs
    have hschema := (extends_of_specialize hs).schema_eq (generic_lt_of_specialize hs)
    refine ⟨hsound'.params_of_remembered hm, ?_⟩
    rw [hsound'.fields_of_remembered hm, hschema]
    rfl

/-! ### An index -/

/-- A declaration of an index. Its keys go into pairs, which are hashed, and its values into a
set. -/
def indexDeclaration : Declaration where
  session := 0
  name := "Index"
  params := [⟨"K", none⟩, ⟨"V", none⟩]
  fields := [
    { name := "entries", type := some (.map (.tuple [.var "K" none, .scalar .int])
      (.list (.var "V" none))) },
    { name := "values", type := some (.optional (.set (.var "V" none))) }]

/-- A world in which only the index is declared. -/
def indexWorld : World :=
  (({} : World).after .openSession).after (.declare indexDeclaration)

theorem reachable_indexWorld : Reachable indexWorld := by
  have hopen : Reachable (({} : World).after .openSession) := Run.refl.step trivial trivial
  exact hopen.step trivial ⟨by decide, by decide⟩

/-- Keys that are left open, and lists as values. -/
def listIndexArguments : List Ty :=
  [.var "N" none, .list (.scalar .int)]

/-- The lists cannot be put into a set. -/
theorem failsByMisfit_indexWorld : indexWorld.FailsByMisfit 0 listIndexArguments ∧
    ∃ e, indexWorld.specialize 0 listIndexArguments = .error e := by
  have ha : ∀ a ∈ listIndexArguments, a.check indexWorld.catalog none = .ok () :=
    List.forall_mem_cons.mpr ⟨rfl, List.forall_mem_singleton.mpr rfl⟩
  have h : indexWorld.FailsByMisfit 0 listIndexArguments :=
    Reachable.failsByMisfit reachable_indexWorld rfl (by decide) rfl ha
  have hmisfit : (indexWorld.appliedType 0 listIndexArguments
      ((indexWorld.catalog.schema 0).fields[1])).HasMisfit indexWorld.catalog
        (.unhashableElement (.list (.scalar .int))) :=
    ⟨.set (.list (.scalar .int)), .inner List.mem_cons_self .self, .set rfl⟩
  exact ⟨h, h.fails_iff.mpr ⟨_, List.getElem_mem _, _, hmisfit⟩⟩

end TypedTree.World
