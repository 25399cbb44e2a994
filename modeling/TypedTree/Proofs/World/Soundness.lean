import TypedTree.Proofs.World.Run

/-! # What holds of all types and sessions that operations can reach -/

namespace TypedTree

/-! ### Sound schemas -/

theorem checkApplication_of_extends {c c' : Catalog} (h : c.Extends c') {generic : TypeId}
    {arguments : List Ty} (hc : checkApplication c generic arguments = .ok ()) :
    checkApplication c' generic arguments = .ok () := by
  rw [checkApplication_eq_ok_iff] at hc ⊢
  rw [h.schema_eq (Catalog.lt_length_of_params hc.1)]
  exact ⟨hc.1, hc.2.1, fun t hm => Ty.check_of_extends h (hc.2.2 t hm)⟩

/-- A schema is that of an application of a declared generic type whose arguments fit. -/
structure Application.MakesIn (app : Application) (c : Catalog) (s : Schema) : Prop where
  root : (c.schema app.generic).origin = none
  fits : checkApplication c app.generic app.arguments = .ok ()
  schema : ∃ name, s = c.appliedSchema app name

/-- A schema at its place in a catalog. The type derives from earlier types only, and from all those
that its parent derives from. -/
structure Schema.SoundAt (s : Schema) (c : Catalog) (t : TypeId) : Prop where
  parent : ∀ p, s.ancestors.head? = some p → p < t ∧ s.ancestors = c.lineage p
  fields : ∀ f ∈ s.fields, f.type.check c (some s.params) = .ok ()
  origin : ∀ app, s.origin = some app → app.MakesIn c s

section

variable {c c' : Catalog} {app : Application} {s : Schema} {t : TypeId}

theorem Application.MakesIn.generic_lt (h : app.MakesIn c s) : app.generic < c.schemas.length :=
  Catalog.lt_length_of_params (checkApplication_eq_ok_iff _ _ |>.mp h.fits).1

theorem Application.MakesIn.of_extends (h : app.MakesIn c s) (hc : c.Extends c') :
    app.MakesIn c' s := by
  have hg := hc.schema_eq h.generic_lt
  refine ⟨by rw [hg]; exact h.root, checkApplication_of_extends hc h.fits, ?_⟩
  obtain ⟨name, rfl⟩ := h.schema
  exact ⟨name, by rw [Catalog.appliedSchema, Catalog.appliedSchema, Catalog.lineage,
    Catalog.lineage, hg]⟩

/-! The parts of a schema that an application determines. -/

theorem Application.MakesIn.params (h : app.MakesIn c s) :
    s.params = Ty.addVarsAll [] app.arguments := by
  obtain ⟨name, rfl⟩ := h.schema
  rfl

theorem Application.MakesIn.fields (h : app.MakesIn c s) :
    s.fields = (c.schema app.generic).appliedFields app.arguments := by
  obtain ⟨name, rfl⟩ := h.schema
  rfl

theorem Application.MakesIn.ancestors (h : app.MakesIn c s) :
    s.ancestors = c.lineage app.generic := by
  obtain ⟨name, rfl⟩ := h.schema
  rfl

theorem Application.MakesIn.session (h : app.MakesIn c s) :
    s.session = (c.schema app.generic).session := by
  obtain ⟨name, rfl⟩ := h.schema
  rfl

theorem Schema.SoundAt.of_extends (h : s.SoundAt c t) (hc : c.Extends c')
    (ht : t ≤ c.schemas.length) : s.SoundAt c' t where
  parent p hp := by
    obtain ⟨hlt, ha⟩ := h.parent p hp
    exact ⟨hlt, by rw [ha, hc.lineage_eq (Nat.lt_of_lt_of_le hlt ht)]⟩
  fields f hf := Ty.check_of_extends hc (h.fields f hf)
  origin app ho := (h.origin app ho).of_extends hc

end

/-! ### Sound worlds -/

/-- A type was made by an application of a generic type of the session. -/
structure Catalog.Made (c : Catalog) (id : SessionId) (app : Application) (t : TypeId) : Prop where
  lt : t < c.schemas.length
  origin : (c.schema t).origin = some app
  session : (c.schema app.generic).session = id

namespace World

/-- All schemas are sound, and every session remembers what was made in it, once. -/
structure Sound (w : World) : Prop where
  schema : ∀ t < w.catalog.schemas.length, (w.catalog.schema t).SoundAt w.catalog t
  session : ∀ t < w.catalog.schemas.length,
    (w.catalog.schema t).session < w.state.sessions.length
  made : ∀ id, ∀ e ∈ (w.state.session id).applications, w.catalog.Made id e.1 e.2
  once : ∀ id, ((w.state.session id).applications.map (·.1)).Nodup

variable {w : World}

theorem Sound.initial : ({} : World).Sound where
  schema _ ht := absurd ht (Nat.not_lt_zero _)
  session _ ht := absurd ht (Nat.not_lt_zero _)
  made _ _ he := absurd he List.not_mem_nil
  once _ := List.nodup_nil

theorem Sound.sessions {w' : World} (h : w.Sound) (hc : w'.catalog.schemas = w.catalog.schemas)
    (hl : w.state.sessions.length ≤ w'.state.sessions.length)
    (ha : ∀ id, (w'.state.session id).applications = (w.state.session id).applications ∨
      (w'.state.session id).applications = []) : w'.Sound := by
  have hs := Catalog.schema_of_eq hc
  have hx : w.catalog.Extends w'.catalog := .of_eq hc
  refine ⟨?_, ?_, ?_, ?_⟩
  · intro t ht
    rw [hc] at ht
    rw [hs]
    exact (h.schema t ht).of_extends hx (Nat.le_of_lt ht)
  · intro t ht
    rw [hc] at ht
    rw [hs]
    exact Nat.lt_of_lt_of_le (h.session t ht) hl
  · intro id e he
    rcases ha id with ha | ha
    · obtain ⟨hlt, ho, hi⟩ := h.made id e (ha ▸ he)
      exact ⟨by rw [hc]; exact hlt, by rw [hs]; exact ho, by rw [hs]; exact hi⟩
    · rw [ha] at he
      exact absurd he List.not_mem_nil
  · intro id
    rcases ha id with ha | ha
    · rw [ha]
      exact h.once id
    · rw [ha]
      exact List.nodup_nil

theorem Sound.addSchema {s : Schema} (h : w.Sound)
    (hs : s.SoundAt w.catalog w.catalog.schemas.length)
    (hi : s.session < w.state.sessions.length) :
    ({ w with catalog := (w.catalog.addSchema s).2 } : World).Sound := by
  have hx := w.catalog.extends_addSchema s
  refine ⟨?_, ?_, ?_, h.once⟩
  · intro t ht
    rcases Catalog.lt_or_eq_of_lt_addSchema ht with ht | rfl
    · rw [hx.schema_eq ht]
      exact (h.schema t ht).of_extends hx (Nat.le_of_lt ht)
    · rw [Catalog.schema_addSchema]
      exact hs.of_extends hx (Nat.le_refl _)
  · intro t ht
    rcases Catalog.lt_or_eq_of_lt_addSchema ht with ht | rfl
    · rw [hx.schema_eq ht]
      exact h.session t ht
    · rw [Catalog.schema_addSchema]
      exact hi
  · intro id e he
    obtain ⟨hlt, ho, hid⟩ := h.made id e he
    have hg := ((h.schema e.2 hlt).origin e.1 ho).generic_lt
    exact ⟨Nat.lt_of_lt_of_le hlt hx.length_le, by rw [hx.schema_eq hlt, ho],
      by rw [hx.schema_eq hg, hid]⟩

theorem Sound.remember {app : Application} {s : Schema} (h : w.Sound)
    (hs : s.SoundAt w.catalog w.catalog.schemas.length) (ho : s.origin = some app)
    (hi : s.session < w.state.sessions.length) (hn : w.remembered? app = none) :
    (w.remember app s).Sound := by
  have hx := w.catalog.extends_addSchema s
  obtain ⟨hschema, hsession, hmade, honce⟩ := h.addSchema hs hi
  refine ⟨hschema, ?_, ?_, ?_⟩
  · intro t ht
    rw [World.remember, State.length_modifySession]
    exact hsession t ht
  · intro id e he
    rw [World.remember, State.session_modifySession] at he
    split at he
    · rename_i hid
      rcases List.mem_append.mp he with he | he
      · exact hmade id e he
      · obtain rfl := List.mem_singleton.mp he
        refine ⟨?_, ?_, ?_⟩
        · exact Nat.lt_of_lt_of_eq (Nat.lt_succ_self _) (w.catalog.length_addSchema s).symm
        · exact (congrArg Schema.origin (w.catalog.schema_addSchema s)).trans ho
        · have hg := hx.schema_eq (hs.origin app ho).generic_lt
          exact (congrArg Schema.session hg).trans hid.1.symm
    · exact hmade id e he
  · intro id
    rw [World.remember, State.session_modifySession]
    split
    · rename_i hid
      rw [Session.remember, List.map_append, List.nodup_append]
      refine ⟨h.once id, by simp, ?_⟩
      rintro a ha b hb rfl
      obtain rfl := List.mem_singleton.mp hb
      obtain ⟨e, he, rfl⟩ := List.mem_map.mp ha
      rw [remembered?, Session.find?, ← hid.1, List.lookup_eq_none_iff] at hn
      simpa using hn e he
    · exact h.once id

/-! ### Operations keep a world sound -/

theorem Sound.build {d : Declaration} {s : Schema} (h : w.Sound)
    (hr : (Operation.declare d).Refers w) (hb : d.build w.catalog = .ok s) :
    s.SoundAt w.catalog w.catalog.schemas.length := by
  obtain ⟨hid, hp⟩ := hr
  have hf := Declaration.check_of_build hb fun p hm => by
    obtain ⟨t, ht, rfl⟩ := Option.map_eq_some_iff.mp hm
    exact (h.schema t (hp t ht)).fields
  obtain ⟨params, table, fields, -, -, -, -, rfl⟩ := Declaration.build_eq_ok hb
  refine ⟨fun p hh => ?_, hf, fun app ho => by cases ho⟩
  cases hd : d.parent with
  | none => simp [hd] at hh
  | some t =>
    simp only [hd, Option.map_some, Option.getD_some, Catalog.lineage, List.head?_cons,
      Option.some.injEq] at hh ⊢
    subst hh
    exact ⟨hp t hd, rfl⟩

/-- A type that is marked with an application was made by it. -/
theorem Sound.makesIn_of_origin {t : TypeId} {app : Application} (h : w.Sound)
    (ho : (w.catalog.schema t).origin = some app) : app.MakesIn w.catalog (w.catalog.schema t) :=
  (h.schema t (Catalog.lt_length_of_origin ho)).origin app ho

/-- An application comes down to one of a declared type. -/
theorem Sound.origin_rootApplication (h : w.Sound) (generic : TypeId) (arguments : List Ty) :
    (w.catalog.schema (w.catalog.rootApplication generic arguments).generic).origin = none := by
  rw [Catalog.rootApplication]
  cases ho : (w.catalog.schema generic).origin with
  | none => exact ho
  | some app => exact (h.makesIn_of_origin ho).root

theorem Sound.specializedSchema {app : Application} {s : Schema} (h : w.Sound)
    (hr : (w.catalog.schema app.generic).origin = none)
    (hc : checkApplication w.catalog app.generic app.arguments = .ok ())
    (hs : specializedSchema w.catalog app.generic app.arguments = .ok s) :
    s.SoundAt w.catalog w.catalog.schemas.length ∧ s.origin = some app ∧
      s.session < w.state.sessions.length := by
  obtain ⟨⟨name, rfl⟩, hf⟩ := specializedSchema_eq_ok hs
  have hg := Catalog.lt_length_of_params ((checkApplication_eq_ok_iff _ _).mp hc).1
  refine ⟨⟨?_, hf, ?_⟩, rfl, h.session _ hg⟩
  · intro p hp
    obtain rfl := Option.some.inj hp
    exact ⟨hg, rfl⟩
  · intro app' ho
    obtain rfl := Option.some.inj ho
    exact ⟨hr, hc, name, rfl⟩

theorem Sound.after (h : w.Sound) {op : Operation} (hr : op.Refers w) : (w.after op).Sound := by
  -- Only the effect matters, not how the operation brings it about.
  generalize w.after op = w', w.effect_after op = he
  cases he with
  | sessions hc hl ha => exact h.sessions hc hl fun id => (ha id).imp_right And.right
  | @declared d s ho hb =>
    subst ho
    have hi : s.session = d.session := by
      obtain ⟨_, _, _, -, -, -, -, rfl⟩ := Declaration.build_eq_ok hb
      rfl
    exact h.addSchema (h.build hr hb) (hi ▸ hr.1)
  | @applied app s hc hroot hn hs =>
    obtain ⟨generic, arguments, rfl⟩ := hroot
    obtain ⟨hsound, ho, hi⟩ := h.specializedSchema (h.origin_rootApplication _ _) hc hs
    exact h.remember hsound ho hi hn

theorem Run.sound {allowed : Operation → Prop} {w' : World} (hr : Run allowed w w')
    (h : w.Sound) : w'.Sound := by
  induction hr with
  | refl => exact h
  | step _ _ hr ih => exact ih.after hr

theorem Reachable.sound (h : Reachable w) : w.Sound :=
  Run.sound h .initial

end World

end TypedTree
