import Mathlib.Algebra.Order.BigOperators.Group.List
import TypedTree.Proofs.Construction.Histories
import TypedTree.Script.Hooks

/-! # Histories of ready-made hooks -/

namespace TypedTree

open Construct
open Situation (reaches_of_derivable)

variable {α : Type} {id : Option SessionId} {c : Catalog} {hand : List Value} {k : ℕ∞}

/-- An action that changes nothing but what supplied functions remember. -/
theorem acts_of_memory {action : StateM State α} {gives : α → List Value}
    (hm : ∀ s, ∃ memory, (action.run s).2 = { s with memory })
    (hg : ∀ s, ∀ v ∈ gives (action.run s).1, Derivable c hand v) :
    (liftM action : Construct α).Acts id c hand k gives := by
  intro s live hl
  obtain ⟨memory, hstate⟩ := hm s
  have hhistory : History id ⟨⟨c, s⟩, live⟩ 0 ⟨⟨c, { s with memory }⟩, live⟩ :=
    @History.operate id ⟨⟨c, s⟩, live⟩ 0 _ (.setMemory memory) .refl not_false trivial
      (List.forall_mem_nil _)
  rw [exec_lift, hstate]
  refine ⟨0, zero_le, .after hhistory (List.Subset.refl live) (reaches_of_derivable ?_)⟩
  exact fun v hv => (hg s v hv).mono hl

theorem acts_of_pure {a : α} {gives : α → List Value} (hg : ∀ v ∈ gives a, Derivable c hand v) :
    (liftM (pure a : StateM State α) : Construct α).Acts id c hand k gives :=
  acts_pure hg

theorem eq_ok_of_mem_toOption {outcome : Except String Value} {v : Value}
    (h : v ∈ outcome.toOption.toList) : outcome = .ok v := by
  cases outcome with
  | error text => exact absurd h List.not_mem_nil
  | ok w => rw [List.mem_singleton.mp h]

/-- Functions of their inputs that make values of what they are given. -/
theorem PureHooks.acts (p : PureHooks)
    (hf : ∀ hook, Derivable c hand (p.factory hook c))
    (hc : ∀ hook v v', p.converter hook c v = .ok v' → Derivable c (v :: hand) v') :
    p.toHooks.Acts id c hand k where
  factory hook := acts_of_pure (List.forall_mem_singleton.mpr (hf hook))
  converter hook v := acts_of_pure fun v' hv' => hc hook v v' (eq_ok_of_mem_toOption hv')
  check _ _ _ := acts_of_pure (List.forall_mem_nil _)
  rootCheck _ _ := acts_of_pure (List.forall_mem_nil _)

theorem PureHooks.permissive_acts : PureHooks.permissive.toHooks.Acts id c hand k :=
  PureHooks.permissive.acts (fun _ => .atom rfl) fun _ v v' hv => by
    obtain rfl := Except.ok.inj hv
    exact .given List.mem_cons_self

theorem Catalog.calls_le {t : TypeId} (ht : t < c.schemas.length) :
    (c.schema t).calls ≤ (c.schemas.map Schema.calls).sum := by
  have hm : c.schema t ∈ c.schemas := by
    rw [Catalog.schema, List.getD_eq_getElem _ _ ht]
    exact List.getElem_mem ht
  exact List.le_sum_of_mem (List.mem_map_of_mem hm)

namespace Script

/-- Fixed values are at hand, and factories make instances of types that there are. -/
structure HookTable.FitsIn (table : HookTable) (c : Catalog) (hand : List Value) : Prop where
  fixed : ∀ v, .fixed v ∈ table.factories → v ∈ hand
  make : ∀ t, .make t ∈ table.factories → t < c.schemas.length

theorem Converter.derivable_of_run {converter : Converter} {v v' : Value}
    (h : converter.run c v = .ok v') : Derivable c (v :: hand) v' := by
  have hv : Derivable c (v :: hand) v := .given List.mem_cons_self
  cases converter with
  | upper =>
    cases v with
    | str s =>
      obtain rfl := Except.ok.inj h
      exact .atom rfl
    | _ => cases h
  | wrapList =>
    obtain rfl := Except.ok.inj h
    exact .list (List.forall_mem_singleton.mpr hv)
  | noneToZero =>
    obtain rfl := Except.ok.inj h
    split
    · exact .atom rfl
    · exact hv
  | length =>
    cases v with
    | str s =>
      obtain rfl := Except.ok.inj h
      exact .atom rfl
    | _ => cases h
  | fail message => cases h

theorem Check.acts_run (check : Check) (f : Field) (v : Value) :
    (liftM (check.run c f v) : Construct (Except String Unit)).Acts id c hand k fun _ => [] := by
  refine acts_of_memory (fun s => ?_) fun _ => List.forall_mem_nil _
  cases check with
  | trace text => exact ⟨_, rfl⟩
  | _ => exact ⟨s.memory, rfl⟩

theorem RootCheck.acts_run (check : RootCheck) (r : Record) :
    (liftM (check.run c r) : Construct (Except String Unit)).Acts id c hand k fun _ => [] := by
  refine acts_of_memory (fun s => ?_) fun _ => List.forall_mem_nil _
  cases check with
  | trace text => exact ⟨_, rfl⟩
  | _ => exact ⟨s.memory, rfl⟩

/-- What a factory does that may make instances with the given hooks. -/
theorem Factory.acts_make {h : Hooks} (hq : h.Acts id c hand k) {t : TypeId}
    (ht : t < c.schemas.length) :
    (liftM (do
      match ← (construct h c t []).run with
      | .ok r => return .record r
      | .error _ => return .none : StateM State Value) : Construct Value).Acts id c hand
      ((c.schema t).calls * k + c.numbers id t) fun v => [v] := by
  intro s live hl
  have hnone : ∀ a ∈ ([] : List (String × Value)), a.2 ∈ live := List.forall_mem_nil _
  obtain ⟨n, hle, hn, -⟩ := makesWithin_construct (hq.mono hl) ht hnone s
  rcases he : (construct h c t []).exec s with ⟨o, s'⟩
  have hrun : (construct h c t []).run.run s = (o, s') := he
  rw [he] at hn
  rw [exec_lift, StateT.run_bind, hrun]
  cases o with
  | error e =>
    obtain ⟨live', hl', hsub⟩ := hn
    change ∃ n : Nat, _ ∧ Situation.Reaches id ⟨⟨c, s⟩, live⟩ n s' [.none]
    exact ⟨n, hle, .after hl' (List.append_subset.mp hsub).2
      (reaches_of_derivable (List.forall_mem_singleton.mpr (.atom rfl)))⟩
  | ok r => exact ⟨n, hle, hn⟩

/-- By induction on how deeply factories make instances. -/
theorem HookTable.exists_acts_hooksWithin {table : HookTable} (ht : table.FitsIn c hand)
    (depth : Nat) : ∃ k : Nat, (table.hooksWithin depth).Acts id c hand k := by
  induction depth with
  | zero =>
    refine ⟨0, fun _ => acts_of_pure ?_, fun _ v => acts_of_pure ?_, fun _ _ _ => acts_of_pure ?_,
      fun _ _ => acts_of_pure ?_⟩
    · exact List.forall_mem_singleton.mpr (.atom rfl)
    · exact List.forall_mem_singleton.mpr (.given List.mem_cons_self)
    · exact List.forall_mem_nil _
    · exact List.forall_mem_nil _
  | succ depth ih =>
    obtain ⟨k, hk⟩ := ih
    refine ⟨(c.schemas.map Schema.calls).sum * k + 1, fun hook => ?_, fun hook v => ?_,
      fun hook f v => ?_, fun hook r => ?_⟩
    · simp only [hooksWithin]
      split
      · next v hf =>
        have hv := ht.fixed v (List.mem_of_getElem? hf)
        exact acts_of_pure (List.forall_mem_singleton.mpr (.given hv))
      · next cell _ =>
        exact acts_of_memory (fun s => ⟨_, rfl⟩) fun s => List.forall_mem_singleton.mpr (.atom rfl)
      · next t hf =>
        have hlt := ht.make t (List.mem_of_getElem? hf)
        refine (Factory.acts_make hk hlt).upTo ?_
        have hnumbers : c.numbers id t ≤ 1 := by
          rw [Catalog.numbers]
          split <;> decide
        exact_mod_cast Nat.add_le_add (Nat.mul_le_mul_right k (Catalog.calls_le hlt)) hnumbers
      · exact acts_of_pure (List.forall_mem_singleton.mpr (.atom rfl))
    · simp only [hooksWithin]
      refine acts_of_pure fun v' hv' => ?_
      have hrun := eq_ok_of_mem_toOption hv'
      split at hrun
      · exact Converter.derivable_of_run hrun
      · obtain rfl := Except.ok.inj hrun
        exact .given List.mem_cons_self
    · simp only [hooksWithin]
      split
      · next check _ => exact check.acts_run f v
      · exact acts_of_pure (List.forall_mem_nil _)
    · simp only [hooksWithin]
      split
      · next check _ => exact check.acts_run r
      · exact acts_of_pure (List.forall_mem_nil _)

end Script

end TypedTree
