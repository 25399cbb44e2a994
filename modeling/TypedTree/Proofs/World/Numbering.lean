import TypedTree.Proofs.World.Continuation

/-! # Numbers of nodes in all that is at hand -/

namespace TypedTree

open Construct

/-- The next number of the session is greater than those of its nodes, wherever they occur in the
values at hand. -/
def Situation.Ahead (id : SessionId) (S : Situation) : Prop :=
  ∀ v ∈ S.hand, ∀ r node, (Value.record r).Occurs v → r.node = some node →
    (r.schema S.world.catalog).session = id → node.id < (S.world.state.session id).nextId

variable {id : SessionId} {S : Situation} {n : Nat}

/-- No node has a number that was not given out. -/
theorem Situation.Settled.ahead (hS : S.Settled (some id) n) (hn : n < 2 ^ 64 - 1) :
    S.Ahead id := by
  intro v hv r node hr hnode hid
  have hle := (hS.hand v hv _ hr).numbered r node rfl hnode (congrArg some hid)
  rw [UInt64.lt_iff_toNat_lt, hS.counter id rfl, NodeId.toNat_ofNat_succ hn]
  exact Nat.lt_succ_of_le hle

/-- Whatever has happened since the beginning, as long as its numbers have not started over, a
session is ahead of its nodes. Whatever is done then goes on like that, and nodes that are made have
greater numbers than those that there are. -/
theorem ahead_of_history (hl : History (some id) .start n S) (hn : n < 2 ^ 64 - 1) :
    S.Ahead id ∧ S.GoesOn (some id) n := by
  have hS := hl.settled_of_start
  exact ⟨hS.ahead hn, hS.goesOn⟩

/-! ### An entry, copies of it, and what is made of them -/

namespace World

/-- An entry was made, and two copies of it were changed. -/
def entrySituation : Situation :=
  ⟨numberedWorld, [renamedCopies, .record (entry .none), .none]⟩

theorem history_entrySituation : History (some 0) .start 1 entrySituation := by
  have hnone : History (some 0) .start 0 ⟨openWorld, [.none]⟩ :=
    (history_openWorld _).obtain (.atom rfl)
  have hentry : History (some 0) .start 0 ⟨entryWorld, [.none]⟩ :=
    @History.operate (some 0) _ 0 _ (.declare entryDeclaration) hnone not_false
      ⟨by decide, by decide⟩ fun _ hv => hv
  have hmodule : History (some 0) .start 0 ⟨moduleWorld, [.none]⟩ :=
    @History.operate (some 0) _ 0 _ (.declare moduleDeclaration) hentry not_false
      ⟨by decide, by decide⟩ (List.forall_mem_nil _)
  have hmade : History (some 0) .start 1 ⟨numberedWorld, [.record (entry .none), .none]⟩ :=
    @History.make (some 0) _ 0 moduleWorld.catalog moduleWorld.state _ 0 [.none] hmodule (by decide)
      (fun _ hv => hv) (.cons rfl .nil)
  have hcopy (name : String) : Derivable moduleWorld.catalog [.record (entry .none), .none]
      (.record (entry (.str name))) :=
    @Derivable.change _ _ (entry .none) (entry (.str name)) (.assign "name" (.str name))
      (.given List.mem_cons_self) (.atom rfl) rfl
  refine hmade.obtain (.list ?_)
  exact List.forall_mem_cons.mpr ⟨hcopy "a", List.forall_mem_singleton.mpr (hcopy "b")⟩

/-- The entry with the number that it gets when it is rebuilt. -/
def rebuiltEntry : Record :=
  { entry .none with node := some ⟨2, Option.none⟩ }

/-- The module of the copies has a greater number than the entries in it, and so has the entry when
it is rebuilt. -/
theorem ahead_entrySituation :
    History (some 0) .start 1 entrySituation ∧ entrySituation.Ahead 0 ∧
      ((construct PureHooks.permissive.toHooks moduleWorld.catalog 1
        [("body", renamedCopies)]).exec numberedState).1 = .ok copiesModule ∧
      copiesModule.Exceeds moduleWorld.catalog (copiesModule.values ++ entrySituation.hand) ∧
      rebuiltEntry.Exceeds moduleWorld.catalog (rebuiltEntry.values ++ entrySituation.hand) ∧
      entrySituation.Reaches (some 0) 0 numberedState
        [renamedCopies.after moduleWorld.catalog ⟨[.item 0], .assign "name" .none⟩] := by
  obtain ⟨hahead, hgoesOn⟩ := ahead_of_history history_entrySituation (by decide)
  have harguments : ∀ a ∈ [("body", renamedCopies)],
      Derivable moduleWorld.catalog entrySituation.hand a.2 :=
    List.forall_mem_singleton.mpr (.given List.mem_cons_self)
  obtain ⟨m, hle, -, hexceeds⟩ := hgoesOn.construct (k := 0) (t := 1) PureHooks.permissive_acts
    (by decide) harguments
  let keep (v : Value) : StateT Unit Construct (Option Value) := pure (some v)
  have hkeep : ∀ v ∈ (entry .none).values,
      TranslatorActs (some 0) moduleWorld.catalog (v :: entrySituation.hand) 0 keep v :=
    fun v _ _ => acts_pure (List.forall_mem_singleton.mpr (.given List.mem_cons_self))
  obtain ⟨m', hle', -, hexceeds'⟩ := hgoesOn.rebuild (k := 0) PureHooks.permissive_acts
    (.given (List.mem_cons_of_mem _ List.mem_cons_self)) hkeep ()
  have hm : m ≤ 1 := by
    rw [mul_zero, zero_add] at hle
    exact_mod_cast hle
  have hm' : m' ≤ 1 := by
    rw [mul_zero, mul_zero, zero_add, zero_add] at hle'
    exact_mod_cast hle'
  refine ⟨history_entrySituation, hahead, exec_construct_copiesModule, ?_, ?_, ?_⟩
  · exact hexceeds copiesModule exec_construct_copiesModule rfl (by omega)
  · exact hexceeds' rebuiltEntry rfl rfl (by omega)
  · exact hgoesOn.change (.given List.mem_cons_self) fun _ _ => .atom rfl

end World

end TypedTree
