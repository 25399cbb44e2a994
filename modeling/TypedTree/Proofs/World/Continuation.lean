import TypedTree.Proofs.Construction.StockHooks
import TypedTree.Proofs.Tree.Histories

/-! # What may be done with the values at hand -/

namespace TypedTree

open Construct
open Situation (reaches_of_derivable)

/-! ### Records that are made -/

/-- If the record is a node, its number is greater than those of the nodes of its session that occur
in the values. -/
def Record.Exceeds (c : Catalog) (r : Record) (values : List Value) : Prop :=
  ∀ node, r.node = some node → ∀ v ∈ values, ∀ r' node', (Value.record r').Occurs v →
    r'.node = some node' → (r'.schema c).session = (r.schema c).session → node'.id < node.id

/-- What was done goes on with a history that has given out `n` numbers, by no more than `k` further
ones, whatever its outcome is. As long as numbers do not start over, a record of the session that it
makes exceeds the values of its own fields and all that was at hand. -/
def Situation.Continues (id : Option SessionId) (n : Nat) (k : ℕ∞) (S : Situation)
    (done : Except InstanceError Record × State) : Prop :=
  ∃ m : Nat, m ≤ k ∧ S.Reaches id m done.2 (given (fun r => [.record r]) done.1) ∧
    ∀ r, done.1 = .ok r → some (r.schema S.world.catalog).session = id → n + m < 2 ^ 64 - 1 →
      r.Exceeds S.world.catalog (r.values ++ S.hand)

variable {id : Option SessionId} {S : Situation} {n m : Nat} {k k' : ℕ∞} {r : Record} {h : Hooks}

theorem NodeId.toNat_ofNat_succ {k : Nat} (hk : k < 2 ^ 64 - 1) :
    (UInt64.ofNat (k + 1)).toNat = k + 1 := by
  rw [UInt64.toNat_ofNat', Nat.mod_eq_of_lt (by omega)]

theorem Situation.Makes.exceeds (hm : S.Makes id m r) (hS : S.Settled id n)
    (hid : some (r.schema S.world.catalog).session = id) (hn : n + m < 2 ^ 64 - 1) :
    r.Exceeds S.world.catalog (r.values ++ S.hand) := by
  obtain ⟨k, s, ⟨live, hl, hsub⟩, hle, hdraft⟩ := hm
  intro node hnode v hv r' node' hr' hnode' hid'
  have hsettled := hl.settled hS
  -- A node takes the number that is next when its fields have their values.
  obtain ⟨hisNode, hnext⟩ : (S.world.catalog.schema r.type).isNode = true ∧
      node.id = (s.session (r.schema S.world.catalog).session).nextId := by
    rw [hnode] at hdraft
    cases hi : (S.world.catalog.schema r.type).isNode with
    | false => simp [draft, hi] at hdraft
    | true => exact ⟨rfl, by simpa [draft, hi, Record.schema] using hdraft⟩
  rw [Catalog.numbers, if_pos ⟨hisNode, hid⟩] at hle
  have hcounter := hsettled.counter _ hid.symm
  have hnumbered := (hsettled.hand v (hsub hv) _ hr').numbered r' node' rfl hnode'
    ((congrArg some hid').trans hid)
  rw [UInt64.lt_iff_toNat_lt, hnext, hcounter, NodeId.toNat_ofNat_succ (by omega)]
  exact Nat.lt_succ_of_le hnumbered

theorem Situation.MakesWithin.continues {done : Except InstanceError Record × State}
    (h : S.MakesWithin id k done) (hS : S.Settled id n) : S.Continues id n k done := by
  obtain ⟨m, hle, hm, hmakes⟩ := h
  exact ⟨m, hle, hm, fun r hr hid hn => (hmakes r hr).exceeds hS hid hn⟩

/-! ### Actions and changes -/

variable {t : TypeId} {arguments : List (String × Value)} {v x : Value}

theorem Derivable.of_occurs {c : Catalog} {hand : List Value} (hv : Derivable c hand v)
    (hx : x.Occurs v) : Derivable c hand x := by
  induction hx with
  | here => exact hv
  | within hy _ ih => exact ih (.component hv hy)

namespace Situation

theorem Settled.everywhere (hS : S.Settled id n) (hv : Derivable S.world.catalog S.hand v) :
    v.Everywhere (Value.Proper S.world.catalog) :=
  (hv.settled hS.hand hS.defaults).mono fun _ hx => hx.proper

theorem Settled.continues_construct (hS : S.Settled id n)
    (hq : h.Acts id S.world.catalog S.hand k) (ht : t < S.world.catalog.schemas.length)
    (ha : ∀ a ∈ arguments, Derivable S.world.catalog S.hand a.2) :
    S.Continues id n ((S.world.catalog.schema t).calls * k + S.world.catalog.numbers id t)
      ((TypedTree.construct h S.world.catalog t arguments).exec S.world.state) := by
  have hgiven : S.Reaches id 0 S.world.state (arguments.map (·.2)) :=
    reaches_of_derivable (List.forall_mem_map.mpr ha)
  obtain ⟨live, hl, hsub⟩ := hgiven
  obtain ⟨harguments, hhand⟩ := List.append_subset.mp hsub
  have hmade := makesWithin_construct (hq.mono hhand) ht
    (fun a ha => harguments (List.mem_map_of_mem ha)) S.world.state
  exact ((hmade.after hl hhand).upTo (zero_add _).le).continues hS

theorem Settled.continues_rebuildNode {σ : Type}
    {translate : Value → StateT σ Construct (Option Value)} (hS : S.Settled id n)
    (hq : h.Acts id S.world.catalog S.hand k)
    (hr : Derivable S.world.catalog S.hand (.record r))
    (htr : ∀ v ∈ r.values, TranslatorActs id S.world.catalog (v :: S.hand) k' translate v) (x : σ) :
    S.Continues id n (r.values.length * k' +
        ((r.schema S.world.catalog).calls * k + S.world.catalog.numbers id r.type))
      (((rebuildNode h S.world.catalog translate r).run' x).exec S.world.state) := by
  have hvalues : ∀ v ∈ Value.record r :: r.values, Derivable S.world.catalog S.hand v :=
    List.forall_mem_cons.mpr ⟨hr, fun v hv => .component hr (List.mem_append_left _ hv)⟩
  have hgiven : S.Reaches id 0 S.world.state (.record r :: r.values) :=
    reaches_of_derivable hvalues
  obtain ⟨live, hl, hsub⟩ := hgiven
  obtain ⟨hgiven, hhand⟩ := List.append_subset.mp hsub
  obtain ⟨hmem, hfields⟩ := List.cons_subset.mp hgiven
  have ht : r.type < S.world.catalog.schemas.length := (hS.everywhere hr _ .here).lt_length
  have htr' : ∀ v ∈ r.values, TranslatorActs id S.world.catalog live k' translate v := fun v hv =>
    (htr v hv).mono (List.cons_subset.mpr ⟨hfields hv, hhand⟩)
  have hmade := makesWithin_rebuildNode (hq.mono hhand) hmem ht hfields htr' x S.world.state
  exact ((hmade.after hl hhand).upTo (zero_add _).le).continues hS

theorem Settled.reaches_transform {w : Transformer} (hS : S.Settled id n)
    (hq : h.Acts id S.world.catalog S.hand ⊤) (hw : w.Derives S.world.catalog S.hand)
    (hv : Derivable S.world.catalog S.hand v) :
    ∃ m, S.Reaches id m ((w.transform h S.world.catalog v).exec S.world.state).2
      (given Option.toList ((w.transform h S.world.catalog v).exec S.world.state).1) := by
  obtain ⟨m, -, hm⟩ := Transformer.acts_transform hq hw (hS.everywhere hv) hv S.world.state S.hand
    (List.Subset.refl S.hand)
  exact ⟨m, hm⟩

/-- What a change along a path leaves, whether or not it is refused. -/
theorem Settled.reaches_after {m : Value.Mutation} (hS : S.Settled id n)
    (hv : Derivable S.world.catalog S.hand v)
    (hw : ∀ r, v.at? S.world.catalog m.path = some (.record r) →
      Derivable S.world.catalog S.hand (m.access.written S.world.catalog r)) :
    S.Reaches id 0 S.world.state [v.after S.world.catalog m] := by
  refine reaches_of_derivable (List.forall_mem_singleton.mpr ?_)
  cases hm : v.mutate S.world.catalog m.access m.path with
  | error p =>
    rw [Value.after_of_mutate_error hm]
    exact hv
  | ok v' =>
    rw [Value.after_of_mutate_ok hm]
    exact hv.mutate (hS.everywhere hv) hw hm

end Situation

/-- All that may be done with the values at hand goes on with a history that has given out `n`
numbers: instances are made and nodes rebuilt, or this fails, trees are transformed, values are
changed along paths, which may be refused, and whatever occurs in a value is copied. -/
structure Situation.GoesOn (id : Option SessionId) (n : Nat) (S : Situation) : Prop where
  construct : ∀ {h : Hooks} {k : ℕ∞} {t arguments}, h.Acts id S.world.catalog S.hand k →
    t < S.world.catalog.schemas.length →
    (∀ a ∈ arguments, Derivable S.world.catalog S.hand a.2) →
    S.Continues id n ((S.world.catalog.schema t).calls * k + S.world.catalog.numbers id t)
      ((TypedTree.construct h S.world.catalog t arguments).exec S.world.state)
  rebuild : ∀ {h : Hooks} {k k' : ℕ∞} {σ : Type}
      {translate : Value → StateT σ Construct (Option Value)} {r},
    h.Acts id S.world.catalog S.hand k → Derivable S.world.catalog S.hand (.record r) →
    (∀ v ∈ r.values, TranslatorActs id S.world.catalog (v :: S.hand) k' translate v) →
    ∀ x : σ, S.Continues id n (r.values.length * k' +
        ((r.schema S.world.catalog).calls * k + S.world.catalog.numbers id r.type))
      (((rebuildNode h S.world.catalog translate r).run' x).exec S.world.state)
  transform : ∀ {h : Hooks} {w : Transformer} {v}, h.Acts id S.world.catalog S.hand ⊤ →
    w.Derives S.world.catalog S.hand → Derivable S.world.catalog S.hand v →
    ∃ m, S.Reaches id m ((w.transform h S.world.catalog v).exec S.world.state).2
      (given Option.toList ((w.transform h S.world.catalog v).exec S.world.state).1)
  change : ∀ {v} {m : Value.Mutation}, Derivable S.world.catalog S.hand v →
    (∀ r, v.at? S.world.catalog m.path = some (.record r) →
      Derivable S.world.catalog S.hand (m.access.written S.world.catalog r)) →
    S.Reaches id 0 S.world.state [v.after S.world.catalog m]
  copy : ∀ {v x}, v ∈ S.hand → x.Occurs v → S.Reaches id 0 S.world.state [x]

theorem Situation.Settled.goesOn (hS : S.Settled id n) : S.GoesOn id n where
  construct := hS.continues_construct
  rebuild := hS.continues_rebuildNode
  transform := hS.reaches_transform
  change := hS.reaches_after
  copy hv hx := reaches_of_derivable (List.forall_mem_singleton.mpr (.of_occurs (.given hv) hx))

end TypedTree
