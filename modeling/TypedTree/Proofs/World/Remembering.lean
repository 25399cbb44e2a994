import TypedTree.Proofs.World.Soundness

/-! # What sessions remember -/

namespace TypedTree.World

variable {w w' : World} {op : Operation} {app : Application} {t : TypeId}

/-! ### Nothing is lost but by clearing -/

theorem Effect.extends (h : Effect w op w') : w.catalog.Extends w'.catalog := by
  cases h with
  | sessions hc => exact .of_eq hc
  | declared => exact w.catalog.extends_addSchema _
  | applied => exact w.catalog.extends_addSchema _

theorem Run.extends {allowed : Operation → Prop} (h : Run allowed w w') :
    w.catalog.Extends w'.catalog := by
  induction h with
  | refl => exact .refl _
  | step _ _ _ ih => exact ih.trans (effect_after _ _).extends

/-- The application that an operation makes comes behind those remembered before. -/
theorem Effect.find? {id : SessionId} (h : Effect w op w') (hop : ¬ op.Clears id)
    (hf : (w.state.session id).find? app = some t) : (w'.state.session id).find? app = some t := by
  cases h with
  | sessions _ _ ha =>
    rcases ha id with ha | ⟨hc, _⟩
    · rw [Session.find?, ha]
      exact hf
    · exact absurd hc hop
  | declared => exact hf
  | applied =>
    rw [World.remember, State.session_modifySession]
    split
    · rw [Session.find?] at hf
      rw [Session.find?, Session.remember, List.lookup_append, hf]
      rfl
    · exact hf

theorem Run.find? {id : SessionId} (h : Run (¬ ·.Clears id) w w')
    (hf : (w.state.session id).find? app = some t) :
    (w'.state.session id).find? app = some t := by
  induction h with
  | refl => exact hf
  | step _ hop _ ih => exact (effect_after _ _).find? hop ih

/-! ### Remembered applications -/

theorem Sound.made_of_remembered (h : w.Sound) (hm : w.remembered? app = some t) :
    w.catalog.Made (w.catalog.schema app.generic).session app t := by
  obtain ⟨before, after, ha, -⟩ := List.lookup_eq_some_iff.mp hm
  exact h.made _ (app, t) (by simp [ha])

theorem Sound.makesIn_of_remembered (h : w.Sound) (hm : w.remembered? app = some t) :
    app.MakesIn w.catalog (w.catalog.schema t) :=
  have hmade := h.made_of_remembered hm
  (h.schema t hmade.lt).origin app hmade.origin

theorem Run.remembered? {id : SessionId} (h : Run (¬ ·.Clears id) w w') (hw : w.Sound)
    (hid : (w.catalog.schema app.generic).session = id) (hm : w.remembered? app = some t) :
    w'.remembered? app = some t := by
  have hg := (hw.makesIn_of_remembered hm).generic_lt
  rw [World.remembered?, hid] at hm
  rw [World.remembered?, h.extends.schema_eq hg, hid]
  exact h.find? hm

/-- What was applied before is not applied anew. -/
theorem Sound.specialize_of_remembered (h : w.Sound) (hm : w.remembered? app = some t) :
    w.specialize app.generic app.arguments = .ok (t, w) := by
  obtain ⟨hroot, hfits, -⟩ := h.makesIn_of_remembered hm
  have hr : w.catalog.rootApplication app.generic app.arguments = app := by
    rw [Catalog.rootApplication, hroot]
  rw [specialize_eq_ok_iff, hr]
  exact ⟨hfits, hfits, .remembered hm⟩

theorem Sound.remembered_of_specialize {generic : TypeId} {arguments : List Ty} (h : w.Sound)
    (hs : w.specialize generic arguments = .ok (t, w')) :
    w'.remembered? (w.catalog.rootApplication generic arguments) = some t := by
  obtain ⟨-, hc, hy⟩ := specialize_eq_ok_iff.mp hs
  have hg := Catalog.lt_length_of_params ((checkApplication_eq_ok_iff _ _).mp hc).1
  cases hy with
  | remembered hm => exact hm
  | @made s hn hs =>
    have hsession := (w.catalog.extends_addSchema s).schema_eq hg
    rw [World.remembered?, World.remember, hsession, State.session_modifySession,
      if_pos ⟨rfl, h.session _ hg⟩, Session.find?, Session.remember, List.lookup_append]
    rw [World.remembered?, Session.find?] at hn
    rw [hn, List.lookup_cons_self]
    rfl

end TypedTree.World
