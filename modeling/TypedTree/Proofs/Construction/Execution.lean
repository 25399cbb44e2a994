import TypedTree.Construction.Hooks

/-! # Running actions that may fail on an instance -/

namespace TypedTree.Construct

variable {α β : Type}

/-- The outcome of an action in a state, and the state that it leaves. -/
def exec (x : Construct α) (s : State) : Except InstanceError α × State :=
  x.run.run s

variable {x : Construct α} {f : α → Construct β} {s s' : State}

@[simp] theorem exec_pure (a : α) (s : State) : (pure a : Construct α).exec s = (.ok a, s) := rfl

@[simp] theorem exec_throw (e : InstanceError) (s : State) :
    (throw e : Construct α).exec s = (.error e, s) := rfl

@[simp] theorem exec_lift (m : StateM State α) (s : State) :
    (liftM m : Construct α).exec s = (.ok (m.run s).1, (m.run s).2) := rfl

theorem exec_bind_of_ok {a : α} (h : x.exec s = (.ok a, s')) :
    (x >>= f).exec s = (f a).exec s' := by
  change ExceptT.bindCont f (x.exec s).1 (x.exec s).2 = _
  rw [h]
  rfl

theorem exec_bind_of_error {e : InstanceError} (h : x.exec s = (.error e, s')) :
    (x >>= f).exec s = (.error e, s') := by
  change ExceptT.bindCont f (x.exec s).1 (x.exec s).2 = _
  rw [h]
  rfl

theorem exec_map (f : α → β) (x : Construct α) (s : State) :
    (f <$> x).exec s = ((x.exec s).1.map f, (x.exec s).2) := by
  rw [map_eq_pure_bind]
  rcases he : x.exec s with ⟨o, s'⟩
  cases o with
  | error e => exact exec_bind_of_error he
  | ok a => exact exec_bind_of_ok he

/-- Two actions in a row succeed if the first one does and then the second one. -/
theorem exec_bind_eq_ok_iff {b : β} : ((x >>= f).exec s).1 = .ok b ↔
    ∃ a s', x.exec s = (.ok a, s') ∧ ((f a).exec s').1 = .ok b := by
  rcases hx : x.exec s with ⟨o, s'⟩
  cases o with
  | error e => simp [exec_bind_of_error hx]
  | ok a =>
    rw [exec_bind_of_ok hx]
    constructor
    · exact fun h => ⟨a, s', rfl, h⟩
    · rintro ⟨_, _, ⟨⟩, h⟩
      exact h

/-! ### Actions that succeed in every state -/

/-- In every state the action gives something that satisfies the condition. -/
def Gives (x : Construct α) (P : α → Prop) : Prop :=
  ∀ s, ∃ a, (x.exec s).1 = .ok a ∧ P a

variable {P : α → Prop} {Q : β → Prop}

theorem gives_pure {a : α} (h : P a) : (pure a : Construct α).Gives P :=
  fun _ => ⟨a, rfl, h⟩

theorem gives_lift {m : StateM State α} (h : ∀ s, P (m.run s).1) :
    (liftM m : Construct α).Gives P :=
  fun s => ⟨(m.run s).1, rfl, h s⟩

theorem Gives.bind (hx : x.Gives P) (hf : ∀ a, P a → (f a).Gives Q) : (x >>= f).Gives Q := by
  intro s
  obtain ⟨a, ha, hp⟩ := hx s
  obtain ⟨b, hb, hq⟩ := hf a hp (x.exec s).2
  exact ⟨b, exec_bind_eq_ok_iff.mpr ⟨a, _, Prod.ext ha rfl, hb⟩, hq⟩

end TypedTree.Construct
