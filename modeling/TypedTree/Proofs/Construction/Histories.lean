import Mathlib.Data.ENat.Basic
import Mathlib.Tactic.Ring
import TypedTree.Proofs.Value.Coercion
import TypedTree.Proofs.World.History

/-! # Histories of actions that may construct -/

namespace TypedTree

open Construct

/-! ### What actions lead to -/

/-- By giving out as many numbers of the session, without adding types, things come to the given
state. The values are at hand then, and so are those that were at hand before. -/
def Situation.Reaches (id : Option SessionId) (S : Situation) (n : Nat) (s : State)
    (values : List Value) : Prop :=
  ∃ live, History id S n ⟨⟨S.world.catalog, s⟩, live⟩ ∧ values ++ S.hand ⊆ live

namespace Construct

/-- The values that an action gives if it does not fail. -/
def given {α : Type} (gives : α → List Value) : Except InstanceError α → List Value
  | .ok a => gives a
  | .error _ => []

/-- Wherever the values are at hand, all that the action does is part of a history, whatever its
outcome is. It gives out no more than `k` numbers of the session, and what it gives is at hand
afterwards. -/
def Acts {α : Type} (id : Option SessionId) (c : Catalog) (hand : List Value) (k : ℕ∞)
    (x : Construct α) (gives : α → List Value) : Prop :=
  ∀ s live, hand ⊆ live → ∃ n : Nat, n ≤ k ∧
    Situation.Reaches id ⟨⟨c, s⟩, live⟩ n (x.exec s).2 (given gives (x.exec s).1)

end Construct

/-- Supplied functions that do not add types, and give out no more than `k` numbers of the session
at a time. They may construct. -/
structure Hooks.Acts (h : Hooks) (id : Option SessionId) (c : Catalog) (hand : List Value)
    (k : ℕ∞) : Prop where
  factory : ∀ hook, (liftM (h.factory hook c) : Construct Value).Acts id c hand k fun v => [v]
  converter : ∀ hook v, (liftM (h.converter hook c v) : Construct (Except String Value)).Acts id c
    (v :: hand) k fun outcome => outcome.toOption.toList
  check : ∀ hook f v, (liftM (h.check hook c f v) : Construct (Except String Unit)).Acts id c
    (v :: hand) k fun _ => []
  rootCheck : ∀ hook r, (liftM (h.rootCheck hook c r) : Construct (Except String Unit)).Acts id c
    (.record r :: hand) k fun _ => []

variable {α β : Type} {id : Option SessionId} {c : Catalog} {h : Hooks}
  {hand hand' live values : List Value} {S T : Situation} {n m : Nat} {k k' : ℕ∞} {s s' : State}

namespace Situation

theorem reaches_of_derivable (hv : ∀ v ∈ values, Derivable S.world.catalog S.hand v) :
    S.Reaches id 0 S.world.state values := by
  induction values with
  | nil => exact ⟨S.hand, .refl, List.Subset.refl _⟩
  | cons v values ih =>
    obtain ⟨hv, hvs⟩ := List.forall_mem_cons.mp hv
    obtain ⟨live, hl, hsub⟩ := ih hvs
    have hhand : S.hand ⊆ live := (List.append_subset.mp hsub).2
    exact ⟨v :: live, hl.obtain (hv.mono hhand), List.cons_subset_cons v hsub⟩

theorem Reaches.after (hl : History id S n ⟨⟨S.world.catalog, s⟩, live⟩) (hsub : S.hand ⊆ live)
    (h : Reaches id ⟨⟨S.world.catalog, s⟩, live⟩ m s' values) :
    S.Reaches id (n + m) s' values := by
  obtain ⟨live', hl', hsub'⟩ := h
  obtain ⟨hvalues, hlive⟩ := List.append_subset.mp hsub'
  exact ⟨live', hl.trans hl', List.append_subset.mpr ⟨hvalues, List.Subset.trans hsub hlive⟩⟩

end Situation

open Situation (reaches_of_derivable)

namespace Construct

variable {x : Construct α} {f : α → Construct β} {gives gives' : α → List Value}
  {gives₂ : β → List Value}

theorem acts_pure {a : α} (ha : ∀ v ∈ gives a, Derivable c hand v) :
    (pure a : Construct α).Acts id c hand k gives :=
  fun _ _ hl => ⟨0, zero_le, reaches_of_derivable fun v hv => (ha v hv).mono hl⟩

theorem acts_throw (e : InstanceError) : (throw e : Construct α).Acts id c hand k gives :=
  fun _ _ _ => ⟨0, zero_le, reaches_of_derivable fun _ hv => absurd hv List.not_mem_nil⟩

theorem Acts.mono (hx : x.Acts id c hand k gives) (hh : hand ⊆ hand') :
    x.Acts id c hand' k gives :=
  fun s live hl => hx s live (List.Subset.trans hh hl)

theorem Acts.upTo (hx : x.Acts id c hand k gives) (hk : k ≤ k') : x.Acts id c hand k' gives := by
  intro s live hl
  obtain ⟨n, hn, hreach⟩ := hx s live hl
  exact ⟨n, hn.trans hk, hreach⟩

/-- The second action may use what the first one gives. -/
theorem Acts.bind (hx : x.Acts id c hand k gives)
    (hf : ∀ a, (∃ s, (x.exec s).1 = .ok a) → (f a).Acts id c (gives a ++ hand) k' gives₂) :
    (x >>= f).Acts id c hand (k + k') gives₂ := by
  intro s live hl
  obtain ⟨n, hn, hreach⟩ := hx s live hl
  rcases he : x.exec s with ⟨o, s'⟩
  rw [he] at hreach
  cases o with
  | error e =>
    rw [exec_bind_of_error he]
    exact ⟨n, hn.trans le_self_add, hreach⟩
  | ok a =>
    rw [exec_bind_of_ok he]
    obtain ⟨live', hl', hsub⟩ := hreach
    obtain ⟨hgives, hlive⟩ := List.append_subset.mp hsub
    obtain ⟨m, hm, hreach'⟩ := hf a ⟨s, congrArg Prod.fst he⟩ s' live'
      (List.append_subset.mpr ⟨hgives, List.Subset.trans hl hlive⟩)
    refine ⟨n + m, ?_, .after hl' hlive hreach'⟩
    rw [Nat.cast_add]
    exact add_le_add hn hm

/-- When it does not matter how many numbers are given out. -/
theorem Acts.andThen (hx : x.Acts id c hand k gives)
    (hf : ∀ a, (∃ s, (x.exec s).1 = .ok a) → (f a).Acts id c (gives a ++ hand) ⊤ gives₂) :
    (x >>= f).Acts id c hand ⊤ gives₂ :=
  (hx.bind hf).upTo le_top

theorem Acts.of_derivable (values : List Value) (hv : ∀ v ∈ values, Derivable c hand v)
    (hx : x.Acts id c (values ++ hand) k gives) : x.Acts id c hand k gives := by
  have hvalues : (pure () : Construct Unit).Acts id c hand 0 fun _ => values := acts_pure hv
  rw [← pure_bind () fun _ => x, ← zero_add k]
  exact hvalues.bind fun _ _ => hx

end Construct

theorem Construct.given_map (gives : β → List Value) (f : α → β) (o : Except InstanceError α) :
    given gives (o.map f) = given (fun a => gives (f a)) o := by
  cases o <;> rfl

theorem Hooks.Acts.mono (hq : h.Acts id c hand k) (hh : hand ⊆ hand') : h.Acts id c hand' k where
  factory hook := (hq.factory hook).mono hh
  converter hook v := (hq.converter hook v).mono (List.cons_subset_cons v hh)
  check hook f v := (hq.check hook f v).mono (List.cons_subset_cons v hh)
  rootCheck hook r := (hq.rootCheck hook r).mono (List.cons_subset_cons _ hh)

/-! ### The stages of construction -/

/-- How many supplied functions are called for the field at most. -/
def Field.calls (f : Field) : Nat :=
  2 + f.checks.length

/-- How many supplied functions an instance calls at most. -/
def Schema.calls (s : Schema) : Nat :=
  (s.fields.map Field.calls).sum + s.rootChecks.length

section

variable {t : TypeId} {arguments : List (String × Value)} {f : Field} {v raw : Value} {r : Record}

theorem acts_rawValue (hq : h.Acts id c hand k) (ha : ∀ a ∈ arguments, a.2 ∈ hand)
    (hf : f ∈ (c.schema t).fields) :
    (rawValue h c t arguments f).Acts id c hand k fun v => [v] := by
  unfold rawValue
  split
  · next v hv =>
    obtain ⟨before, behind, he, -⟩ := List.lookup_eq_some_iff.mp hv
    have hm : (f.name, v) ∈ arguments := he ▸ List.mem_append_right before List.mem_cons_self
    exact acts_pure (List.forall_mem_singleton.mpr (.given (ha _ hm)))
  · split
    · next v hd => exact acts_pure (List.forall_mem_singleton.mpr (.default hf hd))
    · exact hq.factory _
    · exact acts_throw _

theorem acts_convertValue (hq : h.Acts id c hand k) (hr : raw ∈ hand) :
    (convertValue h c t f raw).Acts id c hand k fun v => [v] := by
  have hhand : raw :: hand ⊆ hand := List.cons_subset.mpr ⟨hr, List.Subset.refl hand⟩
  unfold convertValue
  split
  · next hook _ =>
    rw [← add_zero k]
    refine ((hq.converter hook raw).mono hhand).bind fun outcome _ => ?_
    cases outcome with
    | ok v => exact acts_pure (List.forall_mem_singleton.mpr (.given List.mem_cons_self))
    | error text => exact acts_throw _
  · split
    · split
      · next v hv =>
        refine acts_pure (List.forall_mem_singleton.mpr ?_)
        rcases Ty.eq_or_isAtom_of_coerce hv with rfl | hatom
        · exact .given hr
        · exact .atom hatom
      · exact acts_throw _
    · exact acts_pure (List.forall_mem_singleton.mpr (.given hr))

theorem acts_validateValue : (validateValue c t f v).Acts id c hand 0 fun _ => [] := by
  unfold validateValue
  split
  · exact acts_pure (List.forall_mem_nil _)
  · exact acts_throw _

theorem acts_runChecks (hq : h.Acts id c hand k) (hv : v ∈ hand) (hooks : List HookId) :
    (runChecks h c t f v hooks).Acts id c hand (hooks.length * k) fun _ => [] := by
  have hhand : v :: hand ⊆ hand := List.cons_subset.mpr ⟨hv, List.Subset.refl hand⟩
  induction hooks with
  | nil => exact acts_pure (List.forall_mem_nil _)
  | cons hook hooks ih =>
    rw [List.length_cons, Nat.cast_succ, add_one_mul, add_comm]
    refine ((hq.check hook f v).mono hhand).bind fun outcome _ => ?_
    cases outcome with
    | ok => exact ih
    | error text => exact acts_throw _

theorem acts_fieldValue (hq : h.Acts id c hand k) (ha : ∀ a ∈ arguments, a.2 ∈ hand)
    (hf : f ∈ (c.schema t).fields) :
    (fieldValue h c t arguments f).Acts id c hand (f.calls * k) fun v => [v] := by
  have hcalls : (f.calls : ℕ∞) * k = k + (k + (0 + (f.checks.length * k + 0))) := by
    rw [Field.calls]
    push_cast
    ring
  rw [hcalls]
  unfold fieldValue
  refine (acts_rawValue hq ha hf).bind fun raw _ => ?_
  have hraw := hq.mono (List.subset_cons_self raw hand)
  refine (acts_convertValue hraw List.mem_cons_self).bind fun v _ => ?_
  have hv := hraw.mono (List.subset_cons_self v _)
  refine acts_validateValue.bind fun _ _ => ?_
  refine (acts_runChecks hv List.mem_cons_self f.checks).bind fun _ _ => ?_
  exact acts_pure (List.forall_mem_singleton.mpr (.given List.mem_cons_self))

theorem acts_fieldValues (hq : h.Acts id c hand k) (ha : ∀ a ∈ arguments, a.2 ∈ hand)
    {fields : List Field} (hf : fields ⊆ (c.schema t).fields) :
    (fieldValues h c t arguments fields).Acts id c hand ((fields.map Field.calls).sum * k)
      fun vs => vs := by
  induction fields generalizing hand with
  | nil => exact acts_pure (List.forall_mem_nil _)
  | cons f fields ih =>
    have hcalls : (((f :: fields).map Field.calls).sum : ℕ∞) * k =
        f.calls * k + ((fields.map Field.calls).sum * k + 0) := by
      rw [List.map_cons, List.sum_cons, Nat.cast_add, add_mul, add_zero]
    rw [hcalls]
    obtain ⟨hf, hfields⟩ := List.cons_subset.mp hf
    refine (acts_fieldValue hq ha hf).bind fun v _ => ?_
    have hmore := List.subset_cons_self v hand
    refine (ih (hq.mono hmore) (fun a hm => hmore (ha a hm)) hfields).bind fun vs _ => ?_
    refine acts_pure (List.forall_mem_cons.mpr ⟨.given ?_, fun w hw => .given ?_⟩)
    · exact List.mem_append_right vs List.mem_cons_self
    · exact List.mem_append_left _ hw

theorem acts_runRootChecks (hq : h.Acts id c hand k) (hr : .record r ∈ hand)
    (hooks : List HookId) :
    (runRootChecks h c r hooks).Acts id c hand (hooks.length * k) fun _ => [] := by
  have hhand : .record r :: hand ⊆ hand := List.cons_subset.mpr ⟨hr, List.Subset.refl hand⟩
  induction hooks with
  | nil => exact acts_pure (List.forall_mem_nil _)
  | cons hook hooks ih =>
    rw [List.length_cons, Nat.cast_succ, add_one_mul, add_comm]
    refine ((hq.rootCheck hook r).mono hhand).bind fun outcome _ => ?_
    cases outcome with
    | ok => exact ih
    | error text => exact acts_throw _

theorem acts_collectSymbols (hr : .record r ∈ hand) :
    (collectSymbols c r).Acts id c hand 0 fun r' => [.record r'] := by
  intro s live hl
  have hstate : ((collectSymbols c r).exec s).2 = s := by
    unfold collectSymbols
    split
    · split <;> rfl
    · rfl
  refine ⟨0, le_rfl, ?_⟩
  rw [hstate]
  refine reaches_of_derivable fun v hv => ?_
  cases he : ((collectSymbols c r).exec s).1 with
  | error e =>
    rw [he] at hv
    exact absurd hv List.not_mem_nil
  | ok r' =>
    rw [he] at hv
    obtain rfl := List.mem_singleton.mp hv
    obtain ⟨-, rfl⟩ := exec_collectSymbols_eq_ok_iff.mp he
    exact .collect (.given (hl hr))

end

/-! ### Construction -/

namespace Situation

/-- On the way, when the values of its fields are at hand, the record takes the next number of its
session if it is a node. -/
def Makes (id : Option SessionId) (S : Situation) (n : Nat) (r : Record) : Prop :=
  ∃ m s, S.Reaches id m s r.values ∧ m + S.world.catalog.numbers id r.type ≤ n ∧
    r.node.map (·.id) = (draft S.world.catalog r.type s r.values).node.map (·.id)

/-- Whatever the outcome is, things come to it with no more than `k` numbers of the session given
out, and a record that comes out is made on the way. -/
def MakesWithin (id : Option SessionId) (S : Situation) (k : ℕ∞)
    (done : Except InstanceError Record × State) : Prop :=
  ∃ n : Nat, n ≤ k ∧ S.Reaches id n done.2 (given (fun r => [.record r]) done.1) ∧
    ∀ r, done.1 = .ok r → S.Makes id n r

variable {r : Record} {done : Except InstanceError Record × State}

theorem Makes.after (hl : History id S n ⟨⟨S.world.catalog, s⟩, live⟩) (hsub : S.hand ⊆ live)
    (h : Makes id ⟨⟨S.world.catalog, s⟩, live⟩ m r) : S.Makes id (n + m) r := by
  obtain ⟨k, s', hk, hle, hid⟩ := h
  refine ⟨n + k, s', .after hl hsub hk, ?_, hid⟩
  rw [Nat.add_assoc]
  exact Nat.add_le_add_left hle n

theorem MakesWithin.of_error {e : InstanceError} (hn : n ≤ k) (h : S.Reaches id n s []) :
    S.MakesWithin id k (.error e, s) :=
  ⟨n, hn, h, by rintro r ⟨⟩⟩

theorem MakesWithin.upTo (h : S.MakesWithin id k done) (hk : k ≤ k') :
    S.MakesWithin id k' done := by
  obtain ⟨n, hn, hreach, hmakes⟩ := h
  exact ⟨n, hn.trans hk, hreach, hmakes⟩

theorem MakesWithin.after (hl : History id S n ⟨⟨S.world.catalog, s⟩, live⟩)
    (hsub : S.hand ⊆ live) (h : MakesWithin id ⟨⟨S.world.catalog, s⟩, live⟩ k done) :
    S.MakesWithin id (n + k) done := by
  obtain ⟨m, hm, hreach, hmakes⟩ := h
  refine ⟨n + m, ?_, .after hl hsub hreach, fun r hr => (hmakes r hr).after hl hsub⟩
  rw [Nat.cast_add]
  exact add_le_add le_rfl hm

end Situation

variable {t : TypeId} {arguments : List (String × Value)}

/-- Once the values of its fields are at hand, the record is made, and whatever comes then is part
of the history. -/
theorem makesWithin_construct_of_filled (hq : h.Acts id c live k) (ht : t < c.schemas.length)
    (hi : (c.schema t).flags.abstract = false)
    (hfit : ArgumentsFit (c.schema t) (arguments.map (·.1)))
    (hv : (fieldValues h c t arguments (c.schema t).fields).exec s = (.ok values, s'))
    (hfilled : Situation.Reaches id ⟨⟨c, s⟩, live⟩ n s' values) :
    Situation.MakesWithin id ⟨⟨c, s⟩, live⟩
      (n + c.numbers id t + (c.schema t).rootChecks.length * k)
      ((construct h c t arguments).exec s) := by
  have hreached := hfilled
  obtain ⟨live', hl, hsub⟩ := hfilled
  obtain ⟨hvalues, hlive⟩ := List.append_subset.mp hsub
  have hvalid := validate_of_exec_fieldValues (congrArg Prod.fst hv)
  have hmade := hl.make ht (fun v hv => hvalues hv) hvalid
  let r := draft c t s' values
  have hgrown : live ⊆ .record r :: live' :=
    List.Subset.trans hlive (List.subset_cons_self _ live')
  have hrest : (runRootChecks h c r (c.schema t).rootChecks >>= fun _ =>
      collectSymbols c r).Acts id c (.record r :: live') _ fun r' => [.record r'] :=
    (acts_runRootChecks (hq.mono hgrown) List.mem_cons_self _).bind fun _ _ =>
      acts_collectSymbols List.mem_cons_self
  obtain ⟨j, hj, hreach⟩ := hrest (s'.afterNumbering c t) _ (List.Subset.refl _)
  rw [add_zero] at hj
  rw [exec_construct_of_exec_fieldValues hi hfit hv]
  refine ⟨n + c.numbers id t + j, ?_, .after hmade hgrown hreach, fun r' hr' => ?_⟩
  · rw [Nat.cast_add, Nat.cast_add]
    exact add_le_add le_rfl hj
  · obtain ⟨_, s₂, -, hr'⟩ := exec_bind_eq_ok_iff.mp hr'
    obtain ⟨-, rfl⟩ := exec_collectSymbols_eq_ok_iff.mp hr'
    refine ⟨n, s', ?_, ?_, ?_⟩
    · rw [Record.values_withSymbols]
      exact hreached
    · rw [Record.type_withSymbols]
      exact Nat.le_add_right _ j
    · rw [Record.id_withSymbols, Record.type_withSymbols]
      rfl

/-- Whether it succeeds or fails, construction goes on with the history. -/
theorem makesWithin_construct (hq : h.Acts id c live k) (ht : t < c.schemas.length)
    (ha : ∀ a ∈ arguments, a.2 ∈ live) (s : State) :
    Situation.MakesWithin id ⟨⟨c, s⟩, live⟩ ((c.schema t).calls * k + c.numbers id t)
      ((construct h c t arguments).exec s) := by
  have hstays : Situation.Reaches id ⟨⟨c, s⟩, live⟩ 0 s [] :=
    reaches_of_derivable (List.forall_mem_nil _)
  have hcalls : ((c.schema t).calls : ℕ∞) * k + c.numbers id t =
      ((c.schema t).fields.map Field.calls).sum * k + c.numbers id t +
        (c.schema t).rootChecks.length * k := by
    rw [Schema.calls, Nat.cast_add, add_mul, add_right_comm]
  rw [hcalls]
  cases hi : (c.schema t).flags.abstract with
  | true =>
    rw [exec_construct_abstract hi]
    exact .of_error zero_le hstays
  | false =>
    rcases argumentsFit_or_fail t (c.schema t) (arguments.map (·.1)) with hfit | ⟨e, hfail⟩
    · obtain ⟨m, hle, hm⟩ := acts_fieldValues hq ha (List.Subset.refl (c.schema t).fields) s live
        (List.Subset.refl live)
      rcases hv : (fieldValues h c t arguments (c.schema t).fields).exec s with ⟨o, s₁⟩
      rw [hv] at hm
      cases o with
      | error e =>
        rw [construct_of_fit h hi hfit, exec_bind_of_error hv]
        exact .of_error ((hle.trans le_self_add).trans le_self_add) hm
      | ok values =>
        refine (makesWithin_construct_of_filled hq ht hi hfit hv hm).upTo ?_
        exact add_le_add (add_le_add hle le_rfl) le_rfl
    · rw [exec_construct_arguments hi hfail]
      exact .of_error zero_le hstays

end TypedTree
