import TypedTree.Proofs.World.Derivation

/-!
# The applications that sessions remember

Applying a type is a procedure that calls itself: on a type that was made by an application, it goes
on with the declared generic type behind it and the composed arguments. Between the calls it looks
up what the session remembers, and it ends by adding to that.
-/

namespace TypedTree.World

/-! ### The procedure call by call -/

/-- The calls of an application. The number counts the calls inside the first one; what the last
call gives and leaves behind is given by all. -/
inductive Calls (w : World) :
    TypeId → List Ty → Nat → Except SchemaError TypeId × World → Prop where
  | rejected {generic arguments e}
      (h : checkApplication w.catalog generic arguments = .error e) :
      Calls w generic arguments 0 (.error e, w)
  | remembered {generic arguments t}
      (hc : checkApplication w.catalog generic arguments = .ok ())
      (ho : (w.catalog.schema generic).origin = none)
      (hm : w.remembered? ⟨generic, arguments⟩ = some t) : Calls w generic arguments 0 (.ok t, w)
  | failed {generic arguments e}
      (hc : checkApplication w.catalog generic arguments = .ok ())
      (ho : (w.catalog.schema generic).origin = none)
      (hm : w.remembered? ⟨generic, arguments⟩ = none)
      (hs : specializedSchema w.catalog generic arguments = .error e) :
      Calls w generic arguments 0 (.error e, w)
  | made {generic arguments s}
      (hc : checkApplication w.catalog generic arguments = .ok ())
      (ho : (w.catalog.schema generic).origin = none)
      (hm : w.remembered? ⟨generic, arguments⟩ = none)
      (hs : specializedSchema w.catalog generic arguments = .ok s) :
      Calls w generic arguments 0
        (.ok w.catalog.schemas.length, w.remember ⟨generic, arguments⟩ s)
  | again {generic arguments app n outcome}
      (hc : checkApplication w.catalog generic arguments = .ok ())
      (ho : (w.catalog.schema generic).origin = some app) :
      Calls w app.generic
        (app.arguments.map (·.substitute (w.catalog.schema generic).params arguments)) n outcome →
      Calls w generic arguments (n + 1) outcome

/-- What an application gives, and the world that it leaves behind. -/
def outcome (w : World) (generic : TypeId) (arguments : List Ty) :
    Except SchemaError TypeId × World :=
  match w.specialize generic arguments with
  | .ok (t, w') => (.ok t, w')
  | .error e => (.error e, w)

variable {w w' w₁ w₂ w₃ : World} {generic generic' t t' : TypeId} {arguments arguments' : List Ty}
  {app : Application} {e : SchemaError} {n : Nat} {p : Except SchemaError TypeId × World}

theorem specialize_of_outcome (h : w.outcome generic arguments = (.ok t, w')) :
    w.specialize generic arguments = .ok (t, w') := by
  rw [outcome] at h
  cases hs : w.specialize generic arguments with
  | error e => simp [hs] at h
  | ok q => simpa [hs, Prod.ext_iff] using h

theorem eq_of_outcome_error (h : w.outcome generic arguments = (.error e, w')) : w' = w := by
  rw [outcome] at h
  cases hs : w.specialize generic arguments with
  | error e' =>
    rw [hs] at h
    exact (Prod.mk.inj h).2.symm
  | ok q => simp [hs] at h

theorem specialize_of_rejected (h : checkApplication w.catalog generic arguments = .error e) :
    w.specialize generic arguments = .error e := by
  rw [specialize, h]
  rfl

/-- One application more leads to a declared type. -/
theorem Sound.specialize_of_origin (h : w.Sound)
    (hc : checkApplication w.catalog generic arguments = .ok ())
    (ho : (w.catalog.schema generic).origin = some app) :
    w.specialize generic arguments = w.specialize app.generic
      (app.arguments.map (·.substitute (w.catalog.schema generic).params arguments)) := by
  have hroot := (h.makesIn_of_origin ho).root
  simp [specialize, hc, ho, hroot, bind, Except.bind]

theorem applyRoot_eq_error (hm : w.remembered? app = none)
    (hs : specializedSchema w.catalog app.generic app.arguments = .error e) :
    w.applyRoot app.generic app.arguments = .error e := by
  rw [remembered?] at hm
  rw [applyRoot, hm, hs]
  rfl

/-- Whatever the calls, they give what the application gives. -/
theorem Sound.outcome_of_calls (h : w.Sound) (hp : Calls w generic arguments n p) :
    p = w.outcome generic arguments := by
  -- The model looks through a type made by an application at once, the calls one by one.
  induction hp with
  | rejected hc => rw [outcome, specialize_of_rejected hc]
  | remembered hc ho hm =>
    rw [outcome, specialize_of_declared hc ho, applyRoot_eq_ok_iff.mpr (.remembered hm)]
  | failed hc ho hm hs =>
    rw [outcome, specialize_of_declared hc ho, applyRoot_eq_error hm hs]
  | made hc ho hm hs =>
    rw [outcome, specialize_of_declared hc ho, applyRoot_eq_ok_iff.mpr (.made hm hs)]
  | again hc ho _ ih =>
    rw [ih, outcome, outcome, h.specialize_of_origin hc ho]

theorem exists_calls_of_declared (ho : (w.catalog.schema generic).origin = none) :
    ∃ p, Calls w generic arguments 0 p := by
  cases hc : checkApplication w.catalog generic arguments with
  | error e => exact ⟨_, .rejected hc⟩
  | ok =>
    cases hm : w.remembered? ⟨generic, arguments⟩ with
    | some t => exact ⟨_, .remembered hc ho hm⟩
    | none =>
      cases hs : specializedSchema w.catalog generic arguments with
      | error e => exact ⟨_, .failed hc ho hm hs⟩
      | ok s => exact ⟨_, .made hc ho hm hs⟩

theorem Sound.exists_calls (h : w.Sound) (generic : TypeId) (arguments : List Ty) :
    ∃ n p, Calls w generic arguments n p := by
  cases ho : (w.catalog.schema generic).origin with
  | none => exact ⟨0, exists_calls_of_declared ho⟩
  | some app =>
    cases hc : checkApplication w.catalog generic arguments with
    | error e => exact ⟨0, _, .rejected hc⟩
    | ok =>
      have hroot := (h.makesIn_of_origin ho).root
      obtain ⟨p, hp⟩ := exists_calls_of_declared hroot
      exact ⟨1, p, .again hc ho hp⟩

theorem Calls.eq_zero_of_declared (hp : Calls w generic arguments n p)
    (ho : (w.catalog.schema generic).origin = none) : n = 0 := by
  cases hp with
  | again _ ho' => exact absurd (ho.symm.trans ho') (by simp)
  | _ => rfl

/-- The type that a type was made from was declared. -/
theorem Sound.calls_le_one (h : w.Sound) (hp : Calls w generic arguments n p) : n ≤ 1 := by
  cases hp with
  | again _ ho hinner =>
    have hroot := (h.makesIn_of_origin ho).root
    exact Nat.le_of_eq (congrArg (· + 1) (hinner.eq_zero_of_declared hroot))
  | _ => exact Nat.zero_le 1

/-! ### What stays remembered -/

/-- An entry of a session: a declared generic type was applied, and gave a type of the session that
is marked with the application and has the fields of it. -/
structure Remembers (w : World) (id : SessionId) (app : Application) (t : TypeId) : Prop where
  root : (w.catalog.schema app.generic).origin = none
  origin : (w.catalog.schema t).origin = some app
  session : (w.catalog.schema t).session = id
  fields : (w.catalog.schema t).fields =
    (w.catalog.schema app.generic).appliedFields app.arguments

theorem Sound.remembers (h : w.Sound) {id : SessionId} {entry : Application × TypeId}
    (he : entry ∈ (w.state.session id).applications) : w.Remembers id entry.1 entry.2 := by
  obtain ⟨-, ho, hid⟩ := h.made id entry he
  have hmakes := h.makesIn_of_origin ho
  exact ⟨hmakes.root, ho, hmakes.session.trans hid, hmakes.fields⟩

/-- An application that succeeds leaves all entries as they are, and adds at most its own. -/
theorem applications_of_specialize (hs : w.specialize generic arguments = .ok (t, w'))
    (id : SessionId) :
    (w'.state.session id).applications = (w.state.session id).applications ∨
      w.remembered? (w.catalog.rootApplication generic arguments) = none ∧
        (w'.state.session id).applications = (w.state.session id).applications ++
          [(w.catalog.rootApplication generic arguments, t)] := by
  obtain ⟨-, -, hy⟩ := specialize_eq_ok_iff.mp hs
  cases hy with
  | remembered => exact .inl rfl
  | made hn =>
    rw [remember, State.session_modifySession]
    split
    · exact .inr ⟨hn, rfl⟩
    · exact .inl rfl

/-- Applications that come down to the same one give the same type unless the session is cleared
between them. -/
theorem Sound.eq_of_rootApplication_eq (h : w.Sound)
    (hs : w.specialize generic arguments = .ok (t, w₁))
    (hr : Run (¬ ·.Clears
      (w.catalog.schema (w.catalog.rootApplication generic arguments).generic).session) w₁ w₂)
    (hs' : w₂.specialize generic' arguments' = .ok (t', w₃))
    (heq : w.catalog.rootApplication generic arguments =
      w₂.catalog.rootApplication generic' arguments') : t = t' := by
  have h₁ : w₁.Sound := h.of_specialize hs
  obtain ⟨-, hfits, -⟩ := specialize_eq_ok_iff.mp hs
  have hg := Catalog.lt_length_of_params ((checkApplication_eq_ok_iff _ _).mp hfits).1
  have hsession := congrArg Schema.session ((extends_of_specialize hs).schema_eq hg)
  have hm := hr.remembered? h₁ hsession (h.remembered_of_specialize hs)
  obtain ⟨-, -, hy⟩ := specialize_eq_ok_iff.mp hs'
  rw [← heq] at hy
  -- The first application is still remembered, so the second one makes nothing.
  cases hy with
  | remembered hm' => exact Option.some.inj (hm.symm.trans hm')
  | made hn => exact absurd (hm.symm.trans hn) (by simp)

/-- Applications that come down to different ones never give the same type. -/
theorem Sound.rootApplication_eq_of_eq {allowed : Operation → Prop} (h : w.Sound)
    (hs : w.specialize generic arguments = .ok (t, w₁)) (hr : Run allowed w₁ w₂)
    (hs' : w₂.specialize generic' arguments' = .ok (t, w₃)) :
    w.catalog.rootApplication generic arguments =
      w₂.catalog.rootApplication generic' arguments' := by
  have h₂ : w₂.Sound := hr.sound (h.of_specialize hs)
  have hx := extends_of_specialize hs
  have hx' := extends_of_specialize hs'
  have horigin := h.origin_of_specialize hs hr
  have hlt := Catalog.lt_length_of_origin horigin
  have hr' : Run allowed w₃ w₃ := .refl
  have horigin' := h₂.origin_of_specialize hs' hr'
  rw [hx'.schema_eq hlt, horigin, Option.some.injEq] at horigin'
  rw [← (hx.trans hr.extends).rootApplication_eq (generic_lt_of_specialize hs), horigin',
    hx'.rootApplication_eq (generic_lt_of_specialize hs')]

/-- How sessions remember applications. -/
structure Memoizes (w : World) : Prop where
  entries : ∀ id, ∀ entry ∈ (w.state.session id).applications, w.Remembers id entry.1 entry.2
  once : ∀ id, ((w.state.session id).applications.map (·.1)).Nodup
  root : ∀ t app, (w.catalog.schema t).origin = some app →
    (w.catalog.schema app.generic).origin = none
  /-- An application comes to an end, calls itself once at most, and gives what is specified. -/
  calls : ∀ generic arguments, (∃ n, Calls w generic arguments n (w.outcome generic arguments)) ∧
    ∀ n p, Calls w generic arguments n p → n ≤ 1 ∧ p = w.outcome generic arguments
  /-- Where an application fails, nothing changes. -/
  failure : ∀ generic arguments n e w', Calls w generic arguments n (.error e, w') → w' = w
  /-- Where an application succeeds, it is remembered, and at most its own entry is new. -/
  success : ∀ generic arguments n t w', Calls w generic arguments n (.ok t, w') →
    w'.remembered? (w.catalog.rootApplication generic arguments) = some t ∧
    ∀ id, (w'.state.session id).applications = (w.state.session id).applications ∨
      w.remembered? (w.catalog.rootApplication generic arguments) = none ∧
        (w'.state.session id).applications = (w.state.session id).applications ++
          [(w.catalog.rootApplication generic arguments, t)]
  /-- Until the session is cleared, applications that come down to the same one give one type. -/
  same : ∀ generic arguments t w₁ w₂ generic' arguments' t' w₃,
    w.specialize generic arguments = .ok (t, w₁) →
    Run (¬ ·.Clears
      (w.catalog.schema (w.catalog.rootApplication generic arguments).generic).session) w₁ w₂ →
    w₂.specialize generic' arguments' = .ok (t', w₃) →
    w.catalog.rootApplication generic arguments = w₂.catalog.rootApplication generic' arguments' →
    t = t'
  /-- Applications that come down to different ones give different types. -/
  distinct : ∀ generic arguments t w₁ w₂ generic' arguments' t' w₃,
    w.specialize generic arguments = .ok (t, w₁) → Run (fun _ => True) w₁ w₂ →
    w₂.specialize generic' arguments' = .ok (t', w₃) →
    w.catalog.rootApplication generic arguments ≠ w₂.catalog.rootApplication generic' arguments' →
    t ≠ t'

/-- However declarations, applications and clearing follow each other, sessions remember what
applications gave. -/
theorem Reachable.memoizes (hw : Reachable w) : w.Memoizes where
  entries id entry he := hw.sound.remembers he
  once := hw.sound.once
  root t app ho := (hw.sound.makesIn_of_origin ho).root
  calls generic arguments := by
    obtain ⟨n, p, hp⟩ := hw.sound.exists_calls generic arguments
    refine ⟨⟨n, hw.sound.outcome_of_calls hp ▸ hp⟩, fun m q hq => ?_⟩
    exact ⟨hw.sound.calls_le_one hq, hw.sound.outcome_of_calls hq⟩
  failure generic arguments n e w' hp :=
    eq_of_outcome_error (hw.sound.outcome_of_calls hp).symm
  success generic arguments n t w' hp := by
    have hs := specialize_of_outcome (hw.sound.outcome_of_calls hp).symm
    exact ⟨hw.sound.remembered_of_specialize hs, applications_of_specialize hs⟩
  same _ _ _ _ _ _ _ _ _ hs hr hs' heq := hw.sound.eq_of_rootApplication_eq hs hr hs' heq
  distinct _ _ _ _ _ _ _ _ _ hs hr hs' hne := by
    rintro rfl
    exact hne (hw.sound.rootApplication_eq_of_eq hs hr hs')

/-- In the end, the session of the pair holds the full pair as an application of the declared pair,
and applying the half pair once more calls itself once at most and gives that type back. -/
theorem memoizes_fullPairWorld :
    fullPairWorld.Remembers 0 ⟨0, [.scalar .int, .scalar .bytes]⟩ 2 ∧
      ∀ n p, Calls fullPairWorld 1 [.scalar .bytes] n p → n ≤ 1 ∧ p = (.ok 2, fullPairWorld) := by
  have hw : Reachable fullPairWorld := reachable_halfPairWorld.step trivial trivial
  have hmemoizes := Reachable.memoizes hw
  have hentries : (fullPairWorld.state.session 0).applications =
      [(⟨0, [.scalar .int, .var "V" none]⟩, 1), (⟨0, [.scalar .int, .scalar .bytes]⟩, 2)] := rfl
  have hentry := hmemoizes.entries 0 (⟨0, [.scalar .int, .scalar .bytes]⟩, 2)
  rw [hentries] at hentry
  exact ⟨hentry (by simp), (hmemoizes.calls 1 [.scalar .bytes]).2⟩

end TypedTree.World
