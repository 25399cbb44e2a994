import TypedTree.Proofs.Schema.Extension
import TypedTree.Schema.Specialization

/-! # What applying a generic type does -/

namespace TypedTree

/-! ### The schema that an application has -/

/-- The application of a declared generic type to which an application comes down. -/
def Catalog.rootApplication (c : Catalog) (generic : TypeId) (arguments : List Ty) : Application :=
  match (c.schema generic).origin with
  | none => ⟨generic, arguments⟩
  | some origin =>
    ⟨origin.generic, origin.arguments.map (·.substitute (c.schema generic).params arguments)⟩

/-- The fields of a schema with its parameters replaced by arguments. -/
def Schema.appliedFields (s : Schema) (arguments : List Ty) : List Field :=
  s.fields.map fun f => { f with type := f.type.substitute s.params arguments }

/-- The schema of an application, under a name. -/
def Catalog.appliedSchema (c : Catalog) (app : Application) (name : String) : Schema :=
  let s := c.schema app.generic
  { s with
    name
    params := Ty.addVarsAll [] app.arguments
    fields := s.appliedFields app.arguments
    ancestors := c.lineage app.generic
    origin := some app }

variable {c : Catalog}

theorem checkTypeArguments_eq_ok_iff (record : String) (arguments : List Ty) :
    checkTypeArguments c record arguments = .ok () ↔ ∀ t ∈ arguments, t.check c none = .ok () := by
  induction arguments with
  | nil => simp [checkTypeArguments]
  | cons t ts ih =>
    rw [checkTypeArguments, List.forall_mem_cons, ← ih]
    cases t.check c none <;> simp

theorem checkApplication_eq_ok_iff (generic : TypeId) (arguments : List Ty) :
    checkApplication c generic arguments = .ok () ↔
      (c.schema generic).params ≠ [] ∧ arguments.length = (c.schema generic).params.length ∧
        ∀ t ∈ arguments, t.check c none = .ok () := by
  rw [checkApplication, ← checkTypeArguments_eq_ok_iff (c.schema generic).name]
  by_cases hp : (c.schema generic).params = []
  · simp [Schema.isGeneric, hp]
  · by_cases hl : arguments.length = (c.schema generic).params.length <;>
      simp [Schema.isGeneric, hp, hl]

theorem specializeFields_eq_ok_iff {record : String} {params scope : List TyVar}
    {arguments : List Ty} {fs gs : List Field} :
    specializeFields c record params arguments scope fs = .ok gs ↔
      gs = fs.map (fun f => { f with type := f.type.substitute params arguments }) ∧
        ∀ f ∈ fs, (f.type.substitute params arguments).check c (some scope) = .ok () := by
  induction fs generalizing gs with
  | nil => simp [specializeFields, eq_comm]
  | cons f fs ih =>
    rw [specializeFields, List.forall_mem_cons, List.map_cons]
    cases hf : (f.type.substitute params arguments).check c (some scope) with
    | error fault => simp
    | ok =>
      simp only [map_eq_ok_iff, true_and, ih]
      constructor
      · rintro ⟨rest, ⟨rfl, h⟩, rfl⟩
        exact ⟨rfl, h⟩
      · rintro ⟨rfl, h⟩
        exact ⟨_, ⟨rfl, h⟩, rfl⟩

/-- The fields are looked at in their order, and the first one that is not well formed is
reported. -/
theorem specializeFields_eq_error {record : String} {params scope : List TyVar}
    {arguments : List Ty} {fs : List Field} {e : SchemaError}
    (h : specializeFields c record params arguments scope fs = .error e) :
    ∃ before f after fault, fs = before ++ f :: after ∧
      (∀ g ∈ before, (g.type.substitute params arguments).check c (some scope) = .ok ()) ∧
      (f.type.substitute params arguments).check c (some scope) = .error fault ∧
      e = .invalidType record f.name fault := by
  induction fs with
  | nil => cases h
  | cons f fs ih =>
    rw [specializeFields] at h
    cases hf : (f.type.substitute params arguments).check c (some scope) with
    | error fault =>
      rw [hf] at h
      obtain rfl := Except.error.inj h
      exact ⟨[], f, fs, fault, rfl, by simp, hf, rfl⟩
    | ok =>
      rw [hf] at h
      obtain ⟨before, g, after, fault, rfl, hb, hg, he⟩ := ih (map_eq_error_iff.mp h)
      exact ⟨f :: before, g, after, fault, rfl, List.forall_mem_cons.mpr ⟨hf, hb⟩, hg, he⟩

theorem specializedSchema_eq_ok {generic : TypeId} {arguments : List Ty} {s : Schema}
    (h : specializedSchema c generic arguments = .ok s) :
    (∃ name, s = c.appliedSchema ⟨generic, arguments⟩ name) ∧
      ∀ f ∈ s.fields, f.type.check c (some s.params) = .ok () := by
  obtain ⟨fields, hf, rfl⟩ := map_eq_ok_iff.mp h
  obtain ⟨rfl, hc⟩ := specializeFields_eq_ok_iff.mp hf
  exact ⟨⟨_, rfl⟩, by simpa using hc⟩

/-! ### Applying -/

namespace World

/-- The world in which an application has made a schema of its own. -/
def remember (w : World) (app : Application) (s : Schema) : World where
  catalog := (w.catalog.addSchema s).2
  state := w.state.modifySession (w.catalog.schema app.generic).session
    (·.remember app w.catalog.schemas.length)

/-- The type that an application of a declared generic type has in the session of that type. -/
def remembered? (w : World) (app : Application) : Option TypeId :=
  (w.state.session (w.catalog.schema app.generic).session).find? app

/-- An application of a declared generic type gives the type that it made before, or makes one. -/
inductive Yields (w : World) (app : Application) : TypeId → World → Prop where
  | remembered {t} (h : w.remembered? app = some t) : Yields w app t w
  | made {s} (h : w.remembered? app = none)
      (hs : specializedSchema w.catalog app.generic app.arguments = .ok s) :
      Yields w app w.catalog.schemas.length (w.remember app s)

theorem applyRoot_eq_ok_iff {w w' : World} {app : Application} {t : TypeId} :
    w.applyRoot app.generic app.arguments = .ok (t, w') ↔ w.Yields app t w' := by
  have hr : (w.state.session (w.catalog.schema app.generic).session).find?
      ⟨app.generic, app.arguments⟩ = w.remembered? app := rfl
  rw [applyRoot, hr]
  cases hf : w.remembered? app with
  | some u =>
    constructor
    · rintro ⟨⟩
      exact .remembered hf
    · rintro (h | ⟨h, _⟩)
      · obtain rfl := Option.some.inj (hf.symm.trans h)
        rfl
      · exact absurd (hf.symm.trans h) (by simp)
  | none =>
    constructor
    · intro h
      obtain ⟨s, hs, hp⟩ := map_eq_ok_iff.mp h
      obtain ⟨rfl, rfl⟩ := Prod.mk.inj hp
      exact .made hf hs
    · rintro (h | ⟨_, hs⟩)
      · exact absurd (hf.symm.trans h) (by simp)
      · simp only [hs, Except.map]
        rfl

theorem specializedSchema_of_applyRoot {w : World} {generic : TypeId} {arguments : List Ty}
    {e : SchemaError} (h : w.applyRoot generic arguments = .error e) :
    specializedSchema w.catalog generic arguments = .error e := by
  rw [applyRoot] at h
  split at h
  · cases h
  · exact map_eq_error_iff.mp h

theorem specialize_of_declared {w : World} {generic : TypeId} {arguments : List Ty}
    (hc : checkApplication w.catalog generic arguments = .ok ())
    (ho : (w.catalog.schema generic).origin = none) :
    w.specialize generic arguments = w.applyRoot generic arguments := by
  simp [specialize, hc, ho, bind, Except.bind]

/-- Applying a type applies the declared generic type that it was made from, if any. Both the
arguments given and those that they come down to must fit. -/
theorem specialize_eq_ok_iff {w w' : World} {generic : TypeId} {arguments : List Ty} {t : TypeId} :
    w.specialize generic arguments = .ok (t, w') ↔
      let app := w.catalog.rootApplication generic arguments
      checkApplication w.catalog generic arguments = .ok () ∧
        checkApplication w.catalog app.generic app.arguments = .ok () ∧ w.Yields app t w' := by
  rw [specialize, Catalog.rootApplication]
  cases hc : checkApplication w.catalog generic arguments with
  | error e => simp [bind, Except.bind]
  | ok =>
    cases ho : (w.catalog.schema generic).origin with
    | none => simp [bind, Except.bind, hc, ho, ← applyRoot_eq_ok_iff]
    | some origin =>
      cases hc' : checkApplication w.catalog origin.generic
          (origin.arguments.map (·.substitute (w.catalog.schema generic).params arguments)) <;>
        simp [bind, Except.bind, ho, hc', ← applyRoot_eq_ok_iff]

end World

end TypedTree
