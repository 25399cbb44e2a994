import TypedTree.Proofs.Tree.Resolution

/-! # What construction does to sessions -/

namespace TypedTree

open Construct

/-! ### Actions that leave sessions alone -/

/-- Whatever its outcome is, the action leaves all sessions as they are, and its failures satisfy
the condition. -/
structure Construct.Harmless {α : Type} (x : Construct α) (P : InstanceError → Prop) : Prop where
  sessions : ∀ s, (x.exec s).2.sessions = s.sessions
  failure : ∀ s e, (x.exec s).1 = .error e → P e

/-- Supplied functions that leave all sessions alone: they construct nothing and number nothing. -/
structure Hooks.LeaveSessions (h : Hooks) : Prop where
  factory : ∀ hook c s, ((h.factory hook c).run s).2.sessions = s.sessions
  converter : ∀ hook c v s, ((h.converter hook c v).run s).2.sessions = s.sessions
  check : ∀ hook c f v s, ((h.check hook c f v).run s).2.sessions = s.sessions
  rootCheck : ∀ hook c r s, ((h.rootCheck hook c r).run s).2.sessions = s.sessions

/-- Functions of their inputs alone do. -/
theorem PureHooks.leaveSessions (p : PureHooks) : p.toHooks.LeaveSessions :=
  ⟨fun _ _ _ => rfl, fun _ _ _ _ => rfl, fun _ _ _ _ _ => rfl, fun _ _ _ _ => rfl⟩

namespace Construct

variable {α β : Type} {P : InstanceError → Prop}

theorem harmless_pure (a : α) : (pure a : Construct α).Harmless P :=
  ⟨fun _ => rfl, fun _ _ he => by cases he⟩

theorem harmless_throw {e : InstanceError} (he : P e) : (throw e : Construct α).Harmless P :=
  ⟨fun _ => rfl, fun _ _ h => by cases h; exact he⟩

theorem harmless_lift {m : StateM State α} (h : ∀ s, (m.run s).2.sessions = s.sessions) :
    (liftM m : Construct α).Harmless P :=
  ⟨h, fun _ _ he => by cases he⟩

theorem Harmless.bind {x : Construct α} {f : α → Construct β} (hx : x.Harmless P)
    (hf : ∀ a, (f a).Harmless P) : (x >>= f).Harmless P := by
  constructor
  · intro s
    rcases he : x.exec s with ⟨o, s'⟩
    have hs : s'.sessions = s.sessions := by simpa [he] using hx.sessions s
    cases o with
    | error e => rw [exec_bind_of_error he, hs]
    | ok a => rw [exec_bind_of_ok he, (hf a).sessions, hs]
  · intro s e hfail
    rcases he : x.exec s with ⟨o, s'⟩
    cases o with
    | error e' =>
      rw [exec_bind_of_error he] at hfail
      obtain rfl : e' = e := Except.error.inj hfail
      exact hx.failure s e' (congrArg Prod.fst he)
    | ok a =>
      rw [exec_bind_of_ok he] at hfail
      exact (hf a).failure s' e hfail

end Construct

/-! ### The stages of construction -/

/-- The failure of a stage that comes before the numbering of the instance. -/
def InstanceError.PrecedesNumbering : InstanceError → Prop
  | .rootCheckFailed .. | .duplicateSymbol .. => False
  | _ => True

theorem ArgumentsFail.precedesNumbering {t : TypeId} {s : Schema} {names : List String}
    {e : InstanceError} (h : ArgumentsFail t s names e) : e.PrecedesNumbering := by
  cases h with
  | unexpected | duplicate => trivial

section

variable {h : Hooks} {c : Catalog} {t : TypeId} {arguments : List (String × Value)} {f : Field}

theorem harmless_rawValue (hq : h.LeaveSessions) :
    (rawValue h c t arguments f).Harmless InstanceError.PrecedesNumbering := by
  unfold rawValue
  split
  · exact harmless_pure _
  · split
    · exact harmless_pure _
    · exact harmless_lift (hq.factory _ c)
    · exact harmless_throw trivial

theorem harmless_convertValue (hq : h.LeaveSessions) (raw : Value) :
    (convertValue h c t f raw).Harmless InstanceError.PrecedesNumbering := by
  unfold convertValue
  split
  · refine (harmless_lift (hq.converter _ c raw)).bind fun outcome => ?_
    cases outcome with
    | ok v => exact harmless_pure v
    | error text => exact harmless_throw trivial
  · split
    · split
      · exact harmless_pure _
      · exact harmless_throw trivial
    · exact harmless_pure _

theorem harmless_validateValue (v : Value) :
    (validateValue c t f v).Harmless InstanceError.PrecedesNumbering := by
  unfold validateValue
  split
  · exact harmless_pure ()
  · exact harmless_throw trivial

theorem harmless_runChecks (hq : h.LeaveSessions) (v : Value) (hooks : List HookId) :
    (runChecks h c t f v hooks).Harmless InstanceError.PrecedesNumbering := by
  induction hooks with
  | nil => exact harmless_pure ()
  | cons hook hooks ih =>
    refine (harmless_lift (hq.check hook c f v)).bind fun outcome => ?_
    cases outcome with
    | ok => exact ih
    | error text => exact harmless_throw trivial

theorem harmless_fieldValue (hq : h.LeaveSessions) :
    (fieldValue h c t arguments f).Harmless InstanceError.PrecedesNumbering := by
  unfold fieldValue
  refine (harmless_rawValue hq).bind fun raw => (harmless_convertValue hq raw).bind fun v => ?_
  refine (harmless_validateValue v).bind fun _ => ?_
  refine (harmless_runChecks hq v f.checks).bind fun _ => ?_
  exact harmless_pure v

theorem harmless_fieldValues (hq : h.LeaveSessions) (fields : List Field) :
    (fieldValues h c t arguments fields).Harmless InstanceError.PrecedesNumbering := by
  induction fields with
  | nil => exact harmless_pure []
  | cons f fields ih =>
    refine (harmless_fieldValue hq).bind fun v => ih.bind fun vs => ?_
    exact harmless_pure (v :: vs)

theorem harmless_runRootChecks (hq : h.LeaveSessions) (r : Record)
    (hooks : List HookId) :
    (runRootChecks h c r hooks).Harmless fun e => ∃ text, e = .rootCheckFailed r.type text := by
  induction hooks with
  | nil => exact harmless_pure ()
  | cons hook hooks ih =>
    refine (harmless_lift (hq.rootCheck hook c r)).bind fun outcome => ?_
    cases outcome with
    | ok => exact ih
    | error text => exact harmless_throw ⟨text, rfl⟩

theorem harmless_collectSymbols (r : Record) : (collectSymbols c r).Harmless fun e =>
    (r.schema c).flags.scope = true ∧ ∃ name, e = .duplicateSymbol name r.type := by
  constructor
  · intro s
    unfold collectSymbols
    split
    · split <;> rfl
    · rfl
  · intro s e he
    rcases nodup_or_first_duplicate (·.1) (r.declarations c) with
      hn | ⟨before, ⟨name, id⟩, after, hd, hb, hm⟩
    · rw [exec_collectSymbols (fun _ => hn)] at he
      cases he
    · by_cases hs : (r.schema c).flags.scope = true
      · rw [exec_collectSymbols_error hs hd hb hm] at he
        exact ⟨hs, name, (Except.error.inj he).symm⟩
      · rw [exec_collectSymbols (fun h => absurd h hs)] at he
        cases he

/-! ### Numbering -/

/-- One number of the session was handed out, and nothing else happened to the sessions. -/
structure State.NumberedOnce (s s' : State) (id : SessionId) : Prop where
  nextId : (s'.session id).nextId = (s.session id).nextId + 1
  others : ∀ j, j ≠ id → s'.session j = s.session j
  applications : ∀ j, (s'.session j).applications = (s.session j).applications

theorem State.session_congr {s s' : State} (h : s'.sessions = s.sessions) (id : SessionId) :
    s'.session id = s.session id := by
  rw [session, session, h]

theorem State.numberedOnce_mint {s s' : State} {id : SessionId} (hid : id < s.sessions.length)
    (h : s'.sessions = (s.mint id).2.sessions) : s.NumberedOnce s' id := by
  have hsession : ∀ j, s'.session j =
      if j = id ∧ id < s.sessions.length then
        { s.session j with nextId := (s.session j).nextId + 1 } else s.session j := by
    intro j
    rw [session_congr h, mint, session_modifySession]
  refine ⟨?_, fun j hj => ?_, fun j => ?_⟩
  · rw [hsession, if_pos ⟨rfl, hid⟩]
  · rw [hsession, if_neg fun hc => hj hc.1]
  · rw [hsession]
    split <;> rfl

theorem State.sessions_afterNumbering {s s' : State} (h : s'.sessions = s.sessions) :
    (s'.afterNumbering c t).sessions = (s.afterNumbering c t).sessions := by
  unfold afterNumbering
  split
  · rw [mint, mint, modifySession, modifySession, h]
  · exact h

/-- What construction does to the sessions of a state when it leaves a new state behind. -/
inductive Consumes (c : Catalog) (t : TypeId) (s : State) :
    Except InstanceError Record → State → Prop where
  | before {e s'} (he : e.PrecedesNumbering) (hs : s'.sessions = s.sessions) :
      Consumes c t s (.error e) s'
  | rootCheck {text s'} (hs : s'.sessions = (s.afterNumbering c t).sessions) :
      Consumes c t s (.error (.rootCheckFailed t text)) s'
  | symbols {name s'} (hscope : (c.schema t).flags.scope = true)
      (hs : s'.sessions = (s.afterNumbering c t).sessions) :
      Consumes c t s (.error (.duplicateSymbol name t)) s'
  | made {values s₁ s'} (h₁ : s₁.sessions = s.sessions)
      (hs : s'.sessions = (s.afterNumbering c t).sessions) :
      Consumes c t s (.ok ((draft c t s₁ values).withSymbols c)) s'

theorem consumes_construct (hq : h.LeaveSessions) (s : State) :
    Consumes c t s ((construct h c t arguments).exec s).1
      ((construct h c t arguments).exec s).2 := by
  cases hi : (c.schema t).flags.abstract with
  | true =>
    rw [exec_construct_abstract hi]
    exact .before trivial rfl
  | false =>
    rcases argumentsFit_or_fail t (c.schema t) (arguments.map (·.1)) with ha | ⟨e, ha⟩
    · rcases hv : (fieldValues h c t arguments (c.schema t).fields).exec s with ⟨o, s₁⟩
      have hfields : (fieldValues h c t arguments (c.schema t).fields).Harmless
          InstanceError.PrecedesNumbering := harmless_fieldValues hq (c.schema t).fields
      have h₁ : s₁.sessions = s.sessions := by simpa [hv] using hfields.sessions s
      cases o with
      | error e =>
        rw [construct_of_fit h hi ha, exec_bind_of_error hv]
        exact .before (hfields.failure s e (congrArg Prod.fst hv)) h₁
      | ok values =>
        rw [exec_construct_of_exec_fieldValues hi ha hv]
        have hnumbered := State.sessions_afterNumbering (c := c) (t := t) h₁
        have hchecks := harmless_runRootChecks (c := c) hq (draft c t s₁ values)
          (c.schema t).rootChecks
        rcases hr : (runRootChecks h c (draft c t s₁ values) (c.schema t).rootChecks).exec
          (s₁.afterNumbering c t) with ⟨o, s₂⟩
        have h₂ : s₂.sessions = (s.afterNumbering c t).sessions := by
          rw [← hnumbered]
          simpa [hr] using hchecks.sessions (s₁.afterNumbering c t)
        cases o with
        | error e =>
          rw [exec_bind_of_error hr]
          obtain ⟨text, rfl⟩ := hchecks.failure _ e (congrArg Prod.fst hr)
          exact .rootCheck h₂
        | ok =>
          rw [exec_bind_of_ok hr]
          have hsymbols := harmless_collectSymbols (c := c) (draft c t s₁ values)
          rcases hc : (collectSymbols c (draft c t s₁ values)).exec s₂ with ⟨o, s₃⟩
          have h₃ : s₃.sessions = (s.afterNumbering c t).sessions := by
            rw [← h₂]
            simpa [hc] using hsymbols.sessions s₂
          cases o with
          | error e =>
            obtain ⟨hscope, name, rfl⟩ := hsymbols.failure s₂ e (congrArg Prod.fst hc)
            exact .symbols hscope h₃
          | ok r =>
            obtain ⟨-, rfl⟩ := exec_collectSymbols_eq_ok_iff.mp (congrArg Prod.fst hc)
            exact .made h₁ h₃
    · rw [exec_construct_arguments hi ha]
      exact .before ha.precedesNumbering rfl

end

/-! ### The numbers that a construction uses -/

/-- Construction remembers and forgets no application. It uses no number if it fails before the
instance is numbered or if the instance is a plain record; it uses one number if it makes a node,
and if only the symbols of the node are the reason that it fails. -/
structure UsesOneNumber (c : Catalog) (t : TypeId) (s : State)
    (outcome : Except InstanceError Record) (s' : State) : Prop where
  applications : ∀ id, (s'.session id).applications = (s.session id).applications
  plain : (c.schema t).isNode = false → s'.sessions = s.sessions
  failed : ∀ e, outcome = .error e → e.PrecedesNumbering → s'.sessions = s.sessions
  symbols : ∀ name scope, outcome = .error (.duplicateSymbol name scope) →
    s.NumberedOnce s' (c.schema t).session
  made : ∀ r, outcome = .ok r → (c.schema t).isNode = true →
    s.NumberedOnce s' (c.schema t).session ∧
      r.node.map (·.id) = some (s.session (c.schema t).session).nextId

theorem State.afterNumbering_plain {c : Catalog} {t : TypeId} (s : State)
    (hn : (c.schema t).isNode = false) : s.afterNumbering c t = s := by
  rw [afterNumbering, hn, if_neg Bool.false_ne_true]

theorem State.afterNumbering_node {c : Catalog} {t : TypeId} (s : State)
    (hn : (c.schema t).isNode = true) :
    s.afterNumbering c t = (s.mint (c.schema t).session).2 := by
  rw [afterNumbering, if_pos hn]

theorem Record.id_withSymbols (c : Catalog) (r : Record) :
    (r.withSymbols c).node.map (·.id) = r.node.map (·.id) := by
  unfold withSymbols
  split
  · rw [Option.map_map]
    rfl
  · rfl

namespace World

variable {w : World} {t : TypeId}

/-- A node type belongs to a session that there is. -/
theorem Sound.session_lt_of_isNode (h : w.Sound) (hn : (w.catalog.schema t).isNode = true) :
    (w.catalog.schema t).session < w.state.sessions.length := by
  refine h.session t (Nat.lt_of_not_le fun ht => ?_)
  rw [Catalog.schema_eq_default ht] at hn
  cases hn

section

variable {s' : State} (hs : s'.sessions = (w.state.afterNumbering w.catalog t).sessions)

include hs

theorem Sound.numberedOnce (h : w.Sound) (hn : (w.catalog.schema t).isNode = true) :
    w.state.NumberedOnce s' (w.catalog.schema t).session := by
  rw [w.state.afterNumbering_node hn] at hs
  exact State.numberedOnce_mint (h.session_lt_of_isNode hn) hs

theorem sessions_of_plain (hn : (w.catalog.schema t).isNode = false) :
    s'.sessions = w.state.sessions := by
  rwa [w.state.afterNumbering_plain hn] at hs

theorem Sound.applications_afterNumbering (h : w.Sound) (id : SessionId) :
    (s'.session id).applications = (w.state.session id).applications := by
  cases hn : (w.catalog.schema t).isNode with
  | true => exact (h.numberedOnce hs hn).applications id
  | false => rw [State.session_congr (sessions_of_plain hs hn)]

end

/-- Whatever the arguments are, construction with supplied functions that leave sessions alone uses
one number at most, and none before all fields have passed. -/
theorem usesOneNumber_construct (hw : Reachable w) {h : Hooks} (hq : h.LeaveSessions) (t : TypeId)
    (arguments : List (String × Value)) :
    UsesOneNumber w.catalog t w.state
      ((construct h w.catalog t arguments).exec w.state).1
      ((construct h w.catalog t arguments).exec w.state).2 := by
  have hc : Consumes w.catalog t w.state ((construct h w.catalog t arguments).exec w.state).1
      ((construct h w.catalog t arguments).exec w.state).2 := consumes_construct hq w.state
  generalize ((construct h w.catalog t arguments).exec w.state).1 = outcome at hc
  generalize ((construct h w.catalog t arguments).exec w.state).2 = s' at hc
  cases hc with
  | before he hs =>
    refine ⟨fun id => by rw [State.session_congr hs], fun _ => hs, fun _ _ _ => hs, ?_, ?_⟩
    · rintro name scope ⟨⟩
      exact he.elim
    · rintro r ⟨⟩
  | rootCheck hs =>
    refine ⟨hw.sound.applications_afterNumbering hs, sessions_of_plain hs, ?_, ?_, ?_⟩
    · rintro e ⟨⟩ he
      exact he.elim
    · rintro name scope ⟨⟩
    · rintro r ⟨⟩
  | symbols hscope hs =>
    have hn := (hw.regular.schema t (Catalog.lt_length_of_scope hscope)).scope hscope
    refine ⟨hw.sound.applications_afterNumbering hs, sessions_of_plain hs, ?_, ?_, ?_⟩
    · rintro e ⟨⟩ he
      exact he.elim
    · exact fun _ _ _ => hw.sound.numberedOnce hs hn
    · rintro r ⟨⟩
  | made h₁ hs =>
    refine ⟨hw.sound.applications_afterNumbering hs, sessions_of_plain hs, ?_, ?_, ?_⟩
    · rintro e ⟨⟩
    · rintro name scope ⟨⟩
    · rintro r ⟨⟩ hn
      refine ⟨hw.sound.numberedOnce hs hn, ?_⟩
      rw [Record.id_withSymbols, draft, if_pos hn, State.session_congr h₁]
      rfl

/-! ### A scope that declares a symbol twice -/

/-- The world of entries and modules once an entry is numbered. -/
def numberedWorld : World :=
  moduleWorld.after (.mint 0)

theorem reachable_numberedWorld : Reachable numberedWorld :=
  reachable_moduleWorld.step trivial trivial

/-- Two copies of an entry, which declare the same symbol. -/
def equalCopies : Value :=
  .list [.record (entry (.str "a")), .record (entry (.str "a"))]

theorem exec_construct_equalCopies :
    (construct PureHooks.permissive.toHooks numberedWorld.catalog 1
      [("body", equalCopies)]).exec numberedWorld.state =
      (.error (.duplicateSymbol "a" 1), { sessions := [{ nextId := 3 }] }) := by
  have hdeclarations : (draft moduleWorld.catalog 1 numberedState [equalCopies]).declarations
      moduleWorld.catalog = [("a", 1)] ++ ("a", 1) :: [] := by
    have hchildren : (draft moduleWorld.catalog 1 numberedState [equalCopies]).childValues
      moduleWorld.catalog = [equalCopies] := rfl
    rw [Record.declarations_eq, Record.declarationsWith, hchildren, List.flatMap_singleton,
      equalCopies, (listsDeclarations moduleWorld.catalog).list, List.flatMap_cons,
      List.flatMap_singleton, declarations_entry]
    rfl
  have hfit : ArgumentsFit (moduleWorld.catalog.schema 1) ["body"] :=
    ⟨List.nodup_singleton _, by simpa using ⟨_, rfl, rfl⟩⟩
  have hvalues : (fieldValues PureHooks.permissive.toHooks numberedWorld.catalog 1
    [("body", equalCopies)] (numberedWorld.catalog.schema 1).fields).exec numberedWorld.state =
      (.ok [equalCopies], numberedState) := rfl
  rw [exec_construct_of_exec_fieldValues rfl hfit hvalues]
  exact exec_collectSymbols_error (r := draft moduleWorld.catalog 1 numberedState [equalCopies])
    rfl hdeclarations (List.nodup_singleton _) List.mem_cons_self _

/-- The failed scope has used one number. -/
theorem usesOneNumber_equalCopies :
    Reachable numberedWorld ∧ PureHooks.permissive.toHooks.LeaveSessions ∧
      ((construct PureHooks.permissive.toHooks numberedWorld.catalog 1
        [("body", equalCopies)]).exec numberedWorld.state).1 =
        .error (.duplicateSymbol "a" 1) ∧
      numberedWorld.state.NumberedOnce ((construct PureHooks.permissive.toHooks
        numberedWorld.catalog 1 [("body", equalCopies)]).exec numberedWorld.state).2 0 := by
  have hq := PureHooks.permissive.leaveSessions
  have huses := usesOneNumber_construct reachable_numberedWorld hq 1 [("body", equalCopies)]
  have houtcome := congrArg Prod.fst exec_construct_equalCopies
  exact ⟨reachable_numberedWorld, hq, houtcome, huses.symbols "a" 1 houtcome⟩

/-- A construction that fails may have used a number. -/
theorem not_leaves_nextId_of_failure :
    ¬ ∀ (w : World) (h : Hooks) (t : TypeId) (arguments : List (String × Value))
        (e : InstanceError), Reachable w → h.LeaveSessions →
      ((construct h w.catalog t arguments).exec w.state).1 = .error e →
      (((construct h w.catalog t arguments).exec w.state).2.session
        (w.catalog.schema t).session).nextId =
          (w.state.session (w.catalog.schema t).session).nextId := by
  intro hall
  have hsame := hall numberedWorld PureHooks.permissive.toHooks 1 [("body", equalCopies)]
    (.duplicateSymbol "a" 1) reachable_numberedWorld PureHooks.permissive.leaveSessions
    (congrArg Prod.fst exec_construct_equalCopies)
  rw [exec_construct_equalCopies] at hsame
  exact absurd hsame (by decide)

end World

end TypedTree
