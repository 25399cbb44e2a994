import TypedTree.Proofs.Schema.Declaration
import TypedTree.Proofs.Schema.Specialization

/-! # Runs of operations on types and sessions -/

namespace TypedTree

/-- What can be done to the types and sessions of a world. -/
inductive Operation where
  | openSession
  | addEnum (e : EnumType)
  | declare (d : Declaration)
  | specialize (generic : TypeId) (arguments : List Ty)
  | mint (id : SessionId)
  | resetIds (id : SessionId) (start : NodeId)
  | clear (id : SessionId)
  | reset (id : SessionId)
  /-- Supplied functions change what they remember. -/
  | setMemory (m : Memory)

namespace Operation

/-- A declaration names a type to derive from and a session that exist. -/
def Refers (w : World) : Operation → Prop
  | declare d => d.session < w.state.sessions.length ∧
      ∀ p ∈ d.parent, p < w.catalog.schemas.length
  | _ => True

/-- The session forgets its applications. -/
def Clears (id : SessionId) : Operation → Prop
  | clear i => i = id
  | reset i => i = id
  | _ => False

end Operation

namespace World

def perform (w : World) : Operation → Except SchemaError World
  | .openSession => .ok { w with state := w.state.addSession.2 }
  | .addEnum e => .ok { w with catalog := (w.catalog.addEnum e).2 }
  | .declare d => (w.catalog.declare d).map fun p => { w with catalog := p.2 }
  | .specialize generic arguments => (w.specialize generic arguments).map (·.2)
  | .mint id => .ok { w with state := (w.state.mint id).2 }
  | .resetIds id start => .ok { w with state := w.state.modifySession id (·.resetIds start) }
  | .clear id => .ok { w with state := w.state.modifySession id (·.clearApplications) }
  | .reset id => .ok { w with state := w.state.modifySession id (·.reset) }
  | .setMemory memory => .ok { w with state := { w.state with memory } }

/-- The world after an operation. One that fails leaves the world as it was. -/
def after (w : World) (op : Operation) : World :=
  match w.perform op with
  | .ok w' => w'
  | .error _ => w

/-- Allowed operations lead from one world to another one. -/
inductive Run (allowed : Operation → Prop) (w : World) : World → Prop where
  | refl : Run allowed w w
  | step {u op} : Run allowed w u → allowed op → op.Refers u → Run allowed w (u.after op)

/-- Some operations lead to the world from the one that holds nothing. -/
abbrev Reachable : World → Prop :=
  Run (fun _ => True) {}

theorem Run.trans {allowed : Operation → Prop} {u v w : World} (h : Run allowed u v)
    (h' : Run allowed v w) : Run allowed u w := by
  induction h' with
  | refl => exact h
  | step _ ha hr ih => exact ih.step ha hr

theorem Run.specialize {allowed : Operation → Prop} {w w' : World} {generic : TypeId}
    {arguments : List Ty} {t : TypeId} (h : w.specialize generic arguments = .ok (t, w'))
    (ha : allowed (.specialize generic arguments)) : Run allowed w w' := by
  have hw : w.after (.specialize generic arguments) = w' := by
    rw [after, perform, h]
    rfl
  rw [← hw]
  exact Run.refl.step ha trivial

end World

/-! ### Sessions -/

namespace State

variable (s : State) (id j : SessionId)

theorem session_modifySession (change : Session → Session) :
    (s.modifySession id change).session j =
      if j = id ∧ id < s.sessions.length then change (s.session j) else s.session j := by
  simp only [session, modifySession, List.getD_eq_getElem?_getD, List.getElem?_modify]
  by_cases hj : j = id
  · subst hj
    by_cases hl : j < s.sessions.length
    · simp [hl]
    · simp [hl]
  · simp [hj, Ne.symm hj]

theorem session_addSession : s.addSession.2.session j = s.session j := by
  rcases Nat.lt_trichotomy j s.sessions.length with h | rfl | h
  · exact List.getD_append _ _ _ _ h
  · rw [session, session, addSession, List.getD_append_right _ _ _ _ (Nat.le_refl _), Nat.sub_self,
      List.getD_eq_default _ _ (Nat.le_refl _)]
    rfl
  · rw [session, session, List.getD_eq_default _ _ (Nat.le_of_lt h), List.getD_eq_default]
    rw [addSession, List.length_append, List.length_singleton]
    exact h

theorem length_modifySession (change : Session → Session) :
    (s.modifySession id change).sessions.length = s.sessions.length :=
  List.length_modify ..

end State

/-! ### What an operation can do -/

namespace World

/-- An operation concerns sessions only, or adds a declared type, or makes an application. -/
inductive Effect (w : World) (op : Operation) : World → Prop where
  | sessions {w'} (hc : w'.catalog.schemas = w.catalog.schemas)
      (hl : w.state.sessions.length ≤ w'.state.sessions.length)
      (ha : ∀ id, (w'.state.session id).applications = (w.state.session id).applications ∨
        op.Clears id ∧ (w'.state.session id).applications = []) : Effect w op w'
  | declared {d s} (ho : op = .declare d) (hb : d.build w.catalog = .ok s) :
      Effect w op { w with catalog := (w.catalog.addSchema s).2 }
  | applied {app s} (hc : checkApplication w.catalog app.generic app.arguments = .ok ())
      (hr : ∃ generic arguments, app = w.catalog.rootApplication generic arguments)
      (hn : w.remembered? app = none)
      (hs : specializedSchema w.catalog app.generic app.arguments = .ok s) :
      Effect w op (w.remember app s)

theorem Effect.none (w : World) (op : Operation) : Effect w op w :=
  .sessions rfl (Nat.le_refl _) fun _ => .inl rfl

/-- Changing a session either keeps its applications or forgets them. -/
theorem effect_modifySession (w : World) {op : Operation} {id : SessionId}
    {change : Session → Session} (h : ∀ s, (change s).applications = s.applications ∨
      op.Clears id ∧ (change s).applications = []) :
    Effect w op { w with state := w.state.modifySession id change } := by
  refine .sessions rfl (Nat.le_of_eq (w.state.length_modifySession id change).symm) fun j => ?_
  rw [State.session_modifySession]
  by_cases hj : j = id ∧ id < w.state.sessions.length
  · rw [if_pos hj, hj.1]
    exact h (w.state.session id)
  · rw [if_neg hj]
    exact .inl rfl

theorem effect_after (w : World) (op : Operation) : Effect w op (w.after op) := by
  cases op with
  | openSession =>
    refine .sessions rfl ?_ fun j => .inl (by rw [after, perform, State.session_addSession])
    simp [after, perform, State.addSession]
  | addEnum e => exact .sessions rfl (Nat.le_refl _) fun _ => .inl rfl
  | declare d =>
    rw [after, perform, Catalog.declare]
    cases hb : d.build w.catalog with
    | error e => exact .none w _
    | ok s => exact .declared rfl hb
  | specialize generic arguments =>
    rw [after, perform]
    cases hs : w.specialize generic arguments with
    | error e => exact .none w _
    | ok p =>
      obtain ⟨t, w'⟩ := p
      obtain ⟨-, hc, hy⟩ := specialize_eq_ok_iff.mp hs
      cases hy with
      | remembered h => exact .none w _
      | made hn hs' => exact .applied hc ⟨generic, arguments, rfl⟩ hn hs'
  | mint id | resetIds id start => exact w.effect_modifySession fun _ => .inl rfl
  | clear id | reset id => exact w.effect_modifySession fun _ => .inr ⟨rfl, rfl⟩
  | setMemory m => exact .sessions rfl (Nat.le_refl _) fun _ => .inl rfl

end World

end TypedTree
