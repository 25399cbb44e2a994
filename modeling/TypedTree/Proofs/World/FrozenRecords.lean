import TypedTree.Proofs.World.Continuation

/-! # Records of frozen types stay as they are -/

namespace TypedTree

open Value (Mutation)

variable {S T : Situation} {n m : Nat} {c : Catalog} {v : Value} {r : Record}

/-! ### Changes of a value -/

/-- Changes in place are refused where they would pass through records of frozen types. A refused
change leaves the value as it was, and any other one makes a difference in one place. Records of
frozen types stay as they are, unless something that holds them is replaced. -/
structure Value.Guarded (c : Catalog) (v : Value) : Prop where
  refused : ∀ m : Mutation, v.PassesFrozen c m.path →
    (∃ e, v.mutate c m.access m.path = .error (e, v)) ∧ v.after c m = v
  unchanged : ∀ (m : Mutation) e v', v.mutate c m.access m.path = .error (e, v') →
    v' = v ∧ v.after c m = v
  changed : ∀ (m : Mutation) v', v.mutate c m.access m.path = .ok v' → v.after c m = v' ∧
    ∃ r, v.at? c m.path = some (.record r) ∧
      DifferAt c (m.path ++ [m.access.target c r]) v v'
  kept : ∀ (ms : List Mutation) place r, v.at? c place = some (.record r) →
    (r.schema c).flags.frozen = true → (v.afterAll c ms).at? c place = some (.record r) ∨
      ∃ before m behind, ms = before ++ m :: behind ∧ m.Overwrites c (v.afterAll c before) place

theorem Value.guarded (hc : c.Indexed) (v : Value) : v.Guarded c where
  refused m hp := by
    obtain ⟨e, he⟩ := exists_mutate_eq_error hc hp m.access
    exact ⟨⟨e, he⟩, after_of_mutate_error he⟩
  unchanged _ _ _ he := ⟨eq_of_mutate_error he, after_of_mutate_error he⟩
  changed m v' hm := by
    obtain ⟨-, r, -, hr, -, -, hd⟩ := mutate_eq_ok hc hm
    exact ⟨after_of_mutate_ok hm, r, hr, hd⟩
  kept ms _ _ hr hz := at?_afterAll_or_overwrites hc hr hz ms

/-! ### Whatever happens -/

/-- With the types of the second catalog, a record of a frozen type of the first one is still
frozen, its fields hold values that their types accept, and it is equal to the same values and feeds
the same data to a hash as before. -/
structure Record.StaysIn (r : Record) (c c' : Catalog) : Prop where
  frozen : (r.schema c').flags.frozen = true
  accepted : List.Forall₂ (fun f v => f.type.validate c' v = .ok ()) (r.schema c').fields r.values
  equal : ∀ y, (Value.record r).eqv c' y = (Value.record r).eqv c y
  hash : (Value.record r).hashData c' = (Value.record r).hashData c

theorem Value.Settled.staysIn {c' : Catalog} {id : Option SessionId}
    (h : (Value.record r).Settled id c n) (hx : c.Extends c') (hc : c.Closed)
    (hz : (r.schema c).flags.frozen = true) : r.StaysIn c c' := by
  have hz' : (r.schema c').flags.frozen = true := by
    rw [Record.schema, hx.schema_eq h.proper.lt_length]
    exact hz
  refine ⟨hz', ?_, h.proper.eqv_of_extends hx, h.proper.feed_of_extends hx []⟩
  exact (h.mono hx hc (Nat.le_refl n)).accepted r rfl hz'

/-- Changes of values are guarded, and what they write stands where they write it. Records of frozen
types, wherever they occur in values at hand, stay as they are, whatever happens. -/
structure Situation.KeepsFrozen (S : Situation) : Prop where
  guarded : ∀ v : Value, v.Guarded S.world.catalog
  written : ∀ {v} (m : Mutation) {v'}, Derivable S.world.catalog S.hand v →
    v.mutate S.world.catalog m.access m.path = .ok v' →
    ∃ r, v.at? S.world.catalog m.path = some (.record r) ∧
      v'.at? S.world.catalog (m.path ++ [m.access.target S.world.catalog r]) =
        some (m.access.written S.world.catalog r)
  stays : ∀ {n T}, History none S n T → ∀ v ∈ S.hand, ∀ r, (Value.record r).Occurs v →
    (r.schema S.world.catalog).flags.frozen = true → r.StaysIn S.world.catalog T.world.catalog

/-- Whatever has happened since the beginning, in any number of sessions that may have started to
number anew. Whatever is done then goes on like that. -/
theorem keepsFrozen_of_history (hl : History none .start n S) :
    S.KeepsFrozen ∧ S.GoesOn none n := by
  have hS := hl.settled_of_start
  have hindexed := hS.reachable.indexed
  refine ⟨⟨fun v => v.guarded hindexed, fun m v' hv hm => ?_, fun hT v hv r hr hz => ?_⟩, hS.goesOn⟩
  · obtain ⟨r, hr, -, hwritten⟩ := Value.differAt_of_mutate hindexed (hS.everywhere hv) hm
    exact ⟨r, hr, hwritten⟩
  · have hc := hS.reachable.sound.closed_of_extends (.refl _)
    exact (hS.hand v hv _ hr).staysIn hT.extends hc hz

/-! ### A frozen coin and a purse -/

namespace World

def coinDeclaration : Declaration where
  session := 0
  name := "Coin"
  fields := [{ name := "x", type := some .any }]
  frozen := some true

def purseDeclaration : Declaration where
  session := 0
  name := "Purse"
  fields := [{ name := "content", type := some .any }]

def coinWorld : World :=
  openWorld.after (.declare coinDeclaration)

def purseWorld : World :=
  coinWorld.after (.declare purseDeclaration)

def coin : Record :=
  ⟨0, [.bool true], none, []⟩

def purse (content : Value) : Record :=
  ⟨1, [content], none, []⟩

/-- A coin, and another one in a purse. -/
def pile (content : Value) : Value :=
  .list [.record coin, .record (purse content)]

def pileSituation : Situation :=
  ⟨purseWorld, [pile (.record coin), .record (purse (.record coin)), .record coin, .bool true]⟩

theorem history_pileSituation : History none .start 0 pileSituation := by
  have hcoin : History none .start 0 ⟨coinWorld, []⟩ :=
    @History.operate none _ 0 _ (.declare coinDeclaration) (history_openWorld _) not_false
      ⟨by decide, by decide⟩ (List.forall_mem_nil _)
  have hpurse : History none .start 0 ⟨purseWorld, []⟩ :=
    @History.operate none _ 0 _ (.declare purseDeclaration) hcoin not_false ⟨by decide, by decide⟩
      (List.forall_mem_nil _)
  have hvalue : History none .start 0 ⟨purseWorld, [.bool true]⟩ := hpurse.obtain (.atom rfl)
  have hmade : History none .start 0 ⟨purseWorld, [.record coin, .bool true]⟩ :=
    @History.make none _ 0 purseWorld.catalog purseWorld.state _ 0 [.bool true] hvalue (by decide)
      (fun _ hv => hv) (.cons rfl .nil)
  have hfilled : History none .start 0
      ⟨purseWorld, [.record (purse (.record coin)), .record coin, .bool true]⟩ :=
    @History.make none _ 0 purseWorld.catalog purseWorld.state _ 1 [.record coin] hmade (by decide)
      (List.forall_mem_singleton.mpr List.mem_cons_self) (.cons rfl .nil)
  refine hfilled.obtain (.list (List.forall_mem_cons.mpr ⟨.given ?_, ?_⟩))
  · exact List.mem_cons_of_mem _ List.mem_cons_self
  · exact List.forall_mem_singleton.mpr (.given List.mem_cons_self)

/-- The coin in the purse is not changed, but the purse is, and the other coin stays beside it. -/
theorem keepsFrozen_pile :
    History none .start 0 pileSituation ∧
      (pile (.record coin)).after purseWorld.catalog
        ⟨[.item 1, .field "content"], .assign "x" .none⟩ = pile (.record coin) ∧
      (pile (.record coin)).after purseWorld.catalog ⟨[.item 1], .assign "content" .none⟩ =
        pile .none ∧
      Value.DifferAt purseWorld.catalog [.item 1, .field "content"] (pile (.record coin))
        (pile .none) ∧
      coin.StaysIn purseWorld.catalog purseWorld.catalog := by
  obtain ⟨hkeeps, -⟩ := keepsFrozen_of_history history_pileSituation
  have hguarded := hkeeps.guarded (pile (.record coin))
  have hpasses : (pile (.record coin)).PassesFrozen purseWorld.catalog
      [.item 1, .field "content"] :=
    ⟨_, coin, List.prefix_rfl, rfl, rfl⟩
  obtain ⟨hafter, r, hr, hdiffer⟩ :=
    hguarded.changed ⟨[.item 1], .assign "content" .none⟩ (pile .none) rfl
  have hoccurs : (Value.record coin).Occurs (pile (.record coin)) :=
    .within List.mem_cons_self .here
  refine ⟨history_pileSituation, ?_, hafter, hdiffer, ?_⟩
  · exact (hguarded.refused ⟨[.item 1, .field "content"], .assign "x" .none⟩ hpasses).2
  · exact hkeeps.stays .refl _ List.mem_cons_self coin hoccurs rfl

end World

end TypedTree
