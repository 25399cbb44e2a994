import TypedTree.Proofs.World.Remembering

/-! # Chains of applications compose -/

namespace TypedTree

/-- What the arguments of a chain of applications come down to: those of each step take the place of
the variables that the steps before it leave, in the order of their first appearance. -/
def composeArguments (first : List Ty) (rest : List (List Ty)) : List Ty :=
  rest.foldl (fun composed arguments =>
    composed.map (·.substitute (Ty.addVarsAll [] composed) arguments)) first

theorem composeArguments_append (first : List Ty) (rest : List (List Ty)) (arguments : List Ty) :
    composeArguments first (rest ++ [arguments]) = (composeArguments first rest).map
      (·.substitute (Ty.addVarsAll [] (composeArguments first rest)) arguments) := by
  rw [composeArguments, List.foldl_append]
  rfl

namespace World

/-- A chain of applications of a generic type. Each step applies the type of the previous one.
Anything may happen between two steps except that the session of the generic type is cleared. -/
inductive Chain (w : World) (generic : TypeId) :
    List Ty → List (List Ty) → TypeId → TypeId → World → Prop where
  | first {arguments t w'} (h : w.specialize generic arguments = .ok (t, w')) :
      Chain w generic arguments [] generic t w'
  | next {first rest previous t w₁ w₂ arguments u w₃} :
      Chain w generic first rest previous t w₁ →
      Run (¬ ·.Clears (w.catalog.schema generic).session) w₁ w₂ →
      w₂.specialize t arguments = .ok (u, w₃) →
      Chain w generic first (rest ++ [arguments]) t u w₃

variable {w w' : World} {generic previous t : TypeId} {arguments first : List Ty}
  {rest : List (List Ty)}

/-! ### Single steps -/

theorem generic_lt_of_specialize (h : w.specialize generic arguments = .ok (t, w')) :
    generic < w.catalog.schemas.length := by
  obtain ⟨hc, -, -⟩ := specialize_eq_ok_iff.mp h
  exact Catalog.lt_length_of_params ((checkApplication_eq_ok_iff _ _).mp hc).1

theorem Run.of_specialize {id : SessionId} (h : w.specialize generic arguments = .ok (t, w')) :
    Run (¬ ·.Clears id) w w' :=
  Run.specialize h fun hc => hc

theorem extends_of_specialize (h : w.specialize generic arguments = .ok (t, w')) :
    w.catalog.Extends w'.catalog := by
  have hr : Run (¬ ·.Clears 0) w w' := .of_specialize h
  exact hr.extends

theorem Sound.of_specialize (hw : w.Sound) (h : w.specialize generic arguments = .ok (t, w')) :
    w'.Sound := by
  have hr : Run (¬ ·.Clears 0) w w' := .of_specialize h
  exact hr.sound hw

theorem rootApplication_of_declared (h : (w.catalog.schema generic).origin = none) :
    w.catalog.rootApplication generic arguments = ⟨generic, arguments⟩ := by
  rw [Catalog.rootApplication, h]

/-- Applying a type that was itself made by an application composes the arguments. -/
theorem Sound.rootApplication_of_remembered {app : Application} (h : w.Sound)
    (hm : w.remembered? app = some t) :
    w.catalog.rootApplication t arguments = ⟨app.generic,
      app.arguments.map (·.substitute (Ty.addVarsAll [] app.arguments) arguments)⟩ := by
  rw [Catalog.rootApplication, (h.made_of_remembered hm).origin,
    (h.makesIn_of_remembered hm).params]

/-! ### Chains -/

theorem Chain.run (h : Chain w generic first rest previous t w') :
    Run (¬ ·.Clears (w.catalog.schema generic).session) w w' := by
  induction h with
  | first h => exact .of_specialize h
  | next _ hr hs ih => exact (ih.trans hr).trans (.of_specialize hs)

theorem Chain.generic_lt (h : Chain w generic first rest previous t w') :
    generic < w.catalog.schemas.length := by
  induction h with
  | first h => exact generic_lt_of_specialize h
  | next _ _ _ ih => exact ih

theorem Chain.schema_eq (h : Chain w generic first rest previous t w') :
    w'.catalog.schema generic = w.catalog.schema generic :=
  h.run.extends.schema_eq h.generic_lt

/-- The type that a chain gives stays remembered as the application to the composed arguments. -/
theorem Chain.remembered (hw : w.Sound) (hg : (w.catalog.schema generic).origin = none)
    (h : Chain w generic first rest previous t w') {w'' : World}
    (hr : Run (¬ ·.Clears (w.catalog.schema generic).session) w' w'') :
    w''.remembered? ⟨generic, composeArguments first rest⟩ = some t := by
  have hsession := congrArg Schema.session h.schema_eq
  refine hr.remembered? (h.run.sound hw) hsession ?_
  clear hr
  induction h with
  | first h => exact rootApplication_of_declared hg ▸ hw.remembered_of_specialize h
  | next hchain hr hs ih =>
    have hm := hr.remembered? (hchain.run.sound hw) (congrArg Schema.session hchain.schema_eq)
      (ih (congrArg Schema.session hchain.schema_eq))
    have hsound := hr.sound (hchain.run.sound hw)
    have hu := hsound.remembered_of_specialize hs
    rw [hsound.rootApplication_of_remembered hm] at hu
    rw [composeArguments_append]
    exact hu

theorem Sound.fields_of_remembered {app : Application} (h : w.Sound)
    (hm : w.remembered? app = some t) :
    (w.catalog.schema t).fields = (w.catalog.schema app.generic).appliedFields app.arguments :=
  (h.makesIn_of_remembered hm).fields

theorem Sound.params_of_remembered {app : Application} (h : w.Sound)
    (hm : w.remembered? app = some t) :
    (w.catalog.schema t).params = Ty.addVarsAll [] app.arguments :=
  (h.makesIn_of_remembered hm).params

/-- Replacing the parameters of a partial application in its fields gives the fields of the composed
application: no field mentions a variable that is not a parameter of the generic type. -/
theorem Sound.appliedFields_of_makesIn {app : Application} {s : Schema} (h : w.Sound)
    (hm : app.MakesIn w.catalog s) :
    s.appliedFields arguments = (w.catalog.schema app.generic).appliedFields
      (app.arguments.map (·.substitute s.params arguments)) := by
  have hfits := (checkApplication_eq_ok_iff _ _).mp hm.fits
  rw [Schema.appliedFields, hm.fields, hm.params, Schema.appliedFields, Schema.appliedFields,
    List.map_map]
  refine List.map_congr_left fun f hf => ?_
  have hcheck := (h.schema _ hm.generic_lt).fields f hf
  have hsub := Ty.substitute_substitute (w.catalog.schema app.generic).params
    (Ty.addVarsAll [] app.arguments) app.arguments arguments f.type hfits.2.1.symm
    fun name hm => hm.mem_scope hcheck
  simp only [Function.comp_apply, hsub]

theorem Sound.appliedFields_of_remembered {app : Application} (h : w.Sound)
    (hm : w.remembered? app = some t) :
    (w.catalog.schema t).appliedFields arguments = (w.catalog.schema app.generic).appliedFields
      (app.arguments.map (·.substitute (Ty.addVarsAll [] app.arguments) arguments)) := by
  rw [h.appliedFields_of_makesIn (h.makesIn_of_remembered hm), h.params_of_remembered hm]

/-- A chain of applications gives the very type of the single application to the composed
arguments, whether that comes before, during or after the chain. Each field of it has the type of
that field in the previous type, with the parameters replaced by the last arguments. -/
theorem Chain.composes (hw : Reachable w) (hg : (w.catalog.schema generic).origin = none)
    (h : Chain w generic first rest previous t w') :
    (∀ w'', Run (¬ ·.Clears (w.catalog.schema generic).session) w' w'' →
      w''.specialize generic (composeArguments first rest) = .ok (t, w'')) ∧
    (∀ v v' u, Reachable v →
      v.specialize generic (composeArguments first rest) = .ok (u, v') →
      Run (¬ ·.Clears (w.catalog.schema generic).session) v' w' → u = t) ∧
    (w'.catalog.schema t).params = Ty.addVarsAll [] (composeArguments first rest) ∧
    (w'.catalog.schema t).fields = (w'.catalog.schema previous).appliedFields
      ((first :: rest).getLast (List.cons_ne_nil first rest)) := by
  have hsound := hw.sound
  have hsound' := h.run.sound hsound
  have hm := h.remembered hsound hg .refl
  refine ⟨?_, ?_, hsound'.params_of_remembered hm, ?_⟩
  · intro w'' hr
    exact (hr.sound hsound').specialize_of_remembered (h.remembered hsound hg hr)
  · intro v v' u hv hs hr
    have hx := extends_of_specialize hs
    have hvw : v.catalog.schema generic = w.catalog.schema generic := by
      rw [← (hx.trans hr.extends).schema_eq (generic_lt_of_specialize hs), h.schema_eq]
    have hu := hv.sound.remembered_of_specialize hs
    rw [rootApplication_of_declared (by rw [hvw]; exact hg)] at hu
    have hsession : (v'.catalog.schema generic).session = (w.catalog.schema generic).session := by
      rw [hx.schema_eq (generic_lt_of_specialize hs), hvw]
    exact Option.some.inj ((hr.remembered? (hv.sound.of_specialize hs) hsession hu).symm.trans hm)
  · cases h with
    | first => exact hsound'.fields_of_remembered hm
    | next hchain hr hs =>
      have hprevious := hchain.remembered hsound hg (hr.trans (.of_specialize hs))
      rw [composeArguments_append] at hm
      rw [hsound'.fields_of_remembered hm, ← hsound'.appliedFields_of_remembered hprevious]
      exact congrArg _ (List.getLast_concat (l := first :: _)).symm

/-! ### A pair -/

/-- A declaration of a pair with two type parameters. -/
def pairDeclaration : Declaration where
  session := 0
  name := "Pair"
  params := [⟨"A", none⟩, ⟨"B", none⟩]
  fields := [{ name := "left", type := some (.var "A" none) },
    { name := "right", type := some (.var "B" none) }]

/-- A world in which only the pair is declared. -/
def pairWorld : World :=
  (({} : World).after .openSession).after (.declare pairDeclaration)

theorem reachable_pairWorld : Reachable pairWorld := by
  have hopen : Reachable (({} : World).after .openSession) := Run.refl.step trivial trivial
  exact hopen.step trivial ⟨by decide, by decide⟩

/-- The parameters change places under their own names, and then give way to types. -/
theorem composes_swapped :
    let swapped := pairWorld.after (.specialize 0 [.var "B" none, .var "A" none])
    let applied := swapped.after (.specialize 1 [.scalar .int, .scalar .str])
    Chain pairWorld 0 [.var "B" none, .var "A" none] [[.scalar .int, .scalar .str]] 1 2 applied ∧
      applied.specialize 0 [.scalar .int, .scalar .str] = .ok (2, applied) := by
  intro swapped applied
  have hfirst : Chain pairWorld 0 [.var "B" none, .var "A" none] [] 0 1 swapped := .first rfl
  have hchain : Chain pairWorld 0 [.var "B" none, .var "A" none] [[.scalar .int, .scalar .str]] 1 2
      applied := hfirst.next .refl rfl
  exact ⟨hchain, (hchain.composes reachable_pairWorld rfl).1 applied .refl⟩

end World

end TypedTree
