import TypedTree.Proofs.Construction.Histories
import TypedTree.Proofs.Tree.Rebuilding
import TypedTree.Proofs.Value.Origin

/-! # Histories of rebuilt trees -/

namespace TypedTree

open Construct
open Situation (reaches_of_derivable)

variable {id : Option SessionId} {c : Catalog} {h : Hooks} {hand hand' live : List Value}
  {S : Situation} {n m : Nat} {k k' : ℕ∞} {s : State} {r : Record} {values : List Value}

/-! ### Nodes that are constructed again -/

theorem makesWithin_reconstruct {arguments : List (String × Value)} (hq : h.Acts id c live k)
    (hr : .record r ∈ live) (ht : r.type < c.schemas.length)
    (ha : ∀ a ∈ arguments, a.2 ∈ live) (s : State) :
    Situation.MakesWithin id ⟨⟨c, s⟩, live⟩ ((r.schema c).calls * k + c.numbers id r.type)
      ((reconstruct h c r arguments).exec s) := by
  obtain ⟨n, hle, hn, hmade⟩ := makesWithin_construct hq ht ha s
  rcases he : (construct h c r.type arguments).exec s with ⟨o, s'⟩
  rw [he] at hn hmade
  rw [reconstruct]
  cases o with
  | error e =>
    rw [exec_bind_of_error he]
    exact .of_error hle hn
  | ok rebuilt =>
    rw [exec_bind_of_ok he, exec_pure]
    obtain ⟨live', hl', hsub⟩ := hn
    obtain ⟨hrebuilt, hlive⟩ := List.append_subset.mp hsub
    have hmem : .record rebuilt ∈ live' := hrebuilt List.mem_cons_self
    refine ⟨n, hle, .after hl' hlive (reaches_of_derivable ?_), ?_⟩
    · refine List.forall_mem_singleton.mpr ?_
      split
      · exact .annotations (.given hmem) (.given (hlive hr))
      · exact .given hmem
    · -- Annotations do not matter to how a record is made.
      rintro r' ⟨⟩
      split
      · exact hmade rebuilt rfl
      · exact hmade rebuilt rfl

section

variable {σ : Type} {translate : Value → StateT σ Construct (Option Value)}

/-- The translator may do with the value what supplied functions may do. -/
def TranslatorActs (id : Option SessionId) (c : Catalog) (hand : List Value) (k : ℕ∞)
    (translate : Value → StateT σ Construct (Option Value)) (v : Value) : Prop :=
  ∀ x, ((translate v).run x).Acts id c hand k fun p => p.1.toList

theorem TranslatorActs.mono {v : Value} (ht : TranslatorActs id c hand k translate v)
    (hh : hand ⊆ hand') : TranslatorActs id c hand' k translate v :=
  fun x => (ht x).mono hh

theorem acts_translateField {v : Value} (hv : v ∈ hand)
    (ht : TranslatorActs id c hand k translate v) (f : Field) (x : σ) :
    ((translateField translate f v).run x).Acts id c hand k fun p => p.1.toList := by
  rw [translateField]
  split
  · exact ht x
  · exact acts_pure (List.forall_mem_singleton.mpr (.given hv))

theorem acts_rebuildArguments (fields : List Field) (hv : values ⊆ hand)
    (ht : ∀ v ∈ values, TranslatorActs id c hand k translate v) (x : σ) :
    ((rebuildArguments translate fields values).run x).Acts id c hand (values.length * k)
      fun p => p.1.map (·.2) := by
  induction fields generalizing values hand x with
  | nil => exact acts_pure (List.forall_mem_nil _)
  | cons f fields ih =>
    cases values with
    | nil => exact acts_pure (List.forall_mem_nil _)
    | cons v values =>
      obtain ⟨hv, hvs⟩ := List.cons_subset.mp hv
      obtain ⟨htv, hts⟩ := List.forall_mem_cons.mp ht
      have hcount : ((v :: values).length : ℕ∞) * k = k + (values.length * k + 0) := by
        rw [List.length_cons]
        push_cast
        ring
      rw [rebuildArguments, hcount]
      split
      · simp only [StateT.run_bind]
        refine (acts_translateField hv htv f x).bind fun p _ => ?_
        obtain ⟨left, x₁⟩ := p
        have hmore : hand ⊆ left.toList ++ hand := List.subset_append_right _ hand
        refine (ih (List.Subset.trans hvs hmore) (fun w hw => (hts w hw).mono hmore) x₁).bind
          fun q _ => acts_pure fun w hw => .given ?_
        cases left with
        | none => exact List.mem_append_left _ hw
        | some left =>
          rcases List.mem_cons.mp hw with rfl | hw
          · exact List.mem_append_right _ List.mem_cons_self
          · exact List.mem_append_left _ hw
      · refine (ih hvs hts x).upTo ?_
        rw [add_zero]
        exact le_add_self

/-- Whether it succeeds or fails, rebuilding a node with such a translator goes on with the
history. -/
theorem makesWithin_rebuildNode (hq : h.Acts id c live k) (hr : .record r ∈ live)
    (ht : r.type < c.schemas.length) (hv : r.values ⊆ live)
    (htr : ∀ v ∈ r.values, TranslatorActs id c live k' translate v) (x : σ) (s : State) :
    Situation.MakesWithin id ⟨⟨c, s⟩, live⟩
      (r.values.length * k' + ((r.schema c).calls * k + c.numbers id r.type))
      (((rebuildNode h c translate r).run' x).exec s) := by
  obtain ⟨n, hle, hn⟩ := acts_rebuildArguments (r.schema c).fields hv htr x s live
    (List.Subset.refl live)
  have hrun : (rebuildNode h c translate r).run' x =
      (rebuildArguments translate (r.schema c).fields r.values).run x >>= fun p =>
        reconstruct h c r p.1 := by
    simp [rebuildNode, StateT.run'_eq]
  rw [hrun]
  rcases he : ((rebuildArguments translate (r.schema c).fields r.values).run x).exec s with ⟨o, s₁⟩
  rw [he] at hn
  cases o with
  | error e =>
    rw [exec_bind_of_error he]
    exact .of_error (hle.trans le_self_add) hn
  | ok p =>
    rw [exec_bind_of_ok he]
    obtain ⟨live₁, hl₁, hsub⟩ := hn
    obtain ⟨harguments, hlive⟩ := List.append_subset.mp hsub
    have hmade := makesWithin_reconstruct (hq.mono hlive) (hlive hr) ht
      (fun a ha => harguments (List.mem_map_of_mem ha)) s₁
    exact (hmade.after hl₁ hlive).upTo (add_le_add hle le_rfl)

end

theorem acts_rebuildNode {translate : Value → Construct (Option Value)} (hq : h.Acts id c hand k)
    (hr : .record r ∈ hand) (ht : r.type < c.schemas.length) (hv : r.values ⊆ hand)
    (htr : ∀ v ∈ r.values, (translate v).Acts id c hand k' Option.toList) :
    (rebuildNode h c translate r).Acts id c hand
      (r.values.length * k' + ((r.schema c).calls * k + c.numbers id r.type))
      fun r' => [.record r'] := by
  intro s live hl
  let lifted (v : Value) : StateT Unit Construct (Option Value) := liftM (translate v)
  have hlifted : ∀ v ∈ r.values, TranslatorActs id c live k' lifted v := by
    intro v hm x s live' hl'
    have hrun : (lifted v).run x = (·, x) <$> translate v := by simp [lifted]
    rw [hrun, exec_map, given_map]
    exact htr v hm s live' (List.Subset.trans hl hl')
  have hrun : (rebuildNode h c lifted r).run' () = rebuildNode h c translate r := by
    rw [StateT.run'_eq, run_rebuildNode_lift]
    simp
  obtain ⟨n, hle, hn, -⟩ := makesWithin_rebuildNode (hq.mono hl) (hl hr) ht
    (List.Subset.trans hv hl) hlifted () s
  rw [hrun] at hn
  exact ⟨n, hle, hn⟩

/-! ### Transformers -/

/-- The transformer decides on values that are derived from those that it decides on. -/
structure Transformer.Derives (w : Transformer) (c : Catalog) (hand : List Value) : Prop where
  value : ∀ v v', w.value v = .replace v' → Derivable c (v :: hand) v'
  node : ∀ r v', w.node r = .replace v' → Derivable c (.record r :: hand) v'
  rebuilt : ∀ r v', w.rebuilt r = some v' → Derivable c (.record r :: hand) v'

namespace Transformer

variable {w : Transformer} {items before : List Value} {entries left : List (Value × Value)}

theorem transform_of_remove {v : Value} (hd : w.value v = .remove) :
    w.transform h c v = pure none := by
  cases v <;> rw [transform, hd] <;> rintro _ ⟨⟩

theorem transform_of_replace {v v' : Value} (hd : w.value v = .replace v') :
    w.transform h c v = pure (some v') := by
  cases v <;> rw [transform, hd] <;> rintro _ ⟨⟩

theorem transform_of_isAtom {v : Value} (hd : w.value v = .proceed) (ha : v.isAtom = true) :
    w.transform h c v = pure (some v) := by
  cases v <;> first
    | exact absurd ha Bool.false_ne_true
    | (rw [transform, hd] <;> rintro _ ⟨⟩)

theorem acts_transformAll (hi : ∀ x ∈ items, (transform h c w x).Acts id c hand ⊤ Option.toList) :
    (transformAll h c w items).Acts id c hand ⊤ fun left => left := by
  induction items generalizing hand with
  | nil => exact acts_pure (List.forall_mem_nil _)
  | cons x items ih =>
    obtain ⟨hx, hi⟩ := List.forall_mem_cons.mp hi
    rw [transformAll]
    refine hx.andThen fun transformed _ => ?_
    have hmore : hand ⊆ transformed.toList ++ hand := List.subset_append_right _ hand
    refine (ih fun y hy => (hi y hy).mono hmore).andThen fun rest _ => ?_
    refine acts_pure fun y hy => .given ?_
    cases transformed with
    | none => exact List.mem_append_left _ hy
    | some x' =>
      rcases List.mem_cons.mp hy with rfl | hy
      · exact List.mem_append_right _ List.mem_cons_self
      · exact List.mem_append_left _ hy

/-- Only hashable elements that are new are added to a set, so that it stays one. -/
theorem acts_transformElements (hb : before ⊆ hand) (hd : Value.Distinct c before)
    (hi : ∀ x ∈ items, (transform h c w x).Acts id c hand ⊤ Option.toList) :
    (transformElements h c w before items).Acts id c hand ⊤ fun left => [.set left] := by
  induction items generalizing before hand with
  | nil =>
    exact acts_pure (List.forall_mem_singleton.mpr (.set (fun x hx => .given (hb hx)) hd))
  | cons x items ih =>
    obtain ⟨hx, hi⟩ := List.forall_mem_cons.mp hi
    rw [transformElements]
    refine hx.andThen fun transformed _ => ?_
    have hmore : hand ⊆ transformed.toList ++ hand := List.subset_append_right _ hand
    have hi' := fun y hy => (hi y hy).mono hmore
    cases transformed with
    | none =>
      rw [addTransformed, pure_bind]
      exact ih hb hd hi'
    | some x' =>
      rw [addTransformed]
      split
      · exact acts_throw _
      · rw [pure_bind]
        refine ih (fun y hy => ?_) (Value.distinct_insertElement hd x') hi'
        rcases Value.mem_insertElement hy with hy | rfl
        · exact hmore (hb hy)
        · exact List.mem_append_left _ List.mem_cons_self

/-- Entries are put under the keys that they had, so that a map stays one. -/
theorem acts_transformEntries {placed : List (Value × Value)}
    (hb : ∀ e ∈ placed, e.1 ∈ hand ∧ e.2 ∈ hand) (hd : Value.Distinct c (placed.map (·.1)))
    (hk : ∀ e ∈ entries, e.1 ∈ hand)
    (hi : ∀ e ∈ entries, (transform h c w e.2).Acts id c hand ⊤ Option.toList) :
    (transformEntries h c w placed entries).Acts id c hand ⊤ fun left => [.map left] := by
  induction entries generalizing placed hand with
  | nil =>
    refine acts_pure (List.forall_mem_singleton.mpr (.map ?_ ?_ hd))
    · exact fun e he => .given (hb e he).1
    · exact fun e he => .given (hb e he).2
  | cons e entries ih =>
    obtain ⟨k, v⟩ := e
    obtain ⟨hkey, hk⟩ := List.forall_mem_cons.mp hk
    obtain ⟨hv, hi⟩ := List.forall_mem_cons.mp hi
    rw [transformEntries]
    refine hv.andThen fun transformed _ => ?_
    have hmore : hand ⊆ transformed.toList ++ hand := List.subset_append_right _ hand
    have hplaced : ∀ e ∈ placed, e.1 ∈ transformed.toList ++ hand ∧
        e.2 ∈ transformed.toList ++ hand := fun e he => (hb e he).imp (@hmore _) (@hmore _)
    refine ih ?_ (distinct_putTransformed hd k transformed) (fun e he => hmore (hk e he))
      fun e he => (hi e he).mono hmore
    cases transformed with
    | none => exact hplaced
    | some v' => exact Value.forall_insertEntry (hmore hkey) List.mem_cons_self hplaced

/-- The node is rebuilt from what becomes of the values of its fields, and what it stands for then
is derived from it. -/
theorem acts_transform_node {r : Record} (hd : w.value (.record r) = .proceed)
    (hn : r.isNode = true) (hnode : w.node r = .proceed) (hq : h.Acts id c hand ⊤)
    (hw : w.Derives c hand) (ht : r.type < c.schemas.length)
    (hv : Derivable c hand (.record r))
    (hi : ∀ x ∈ r.values, (transform h c w x).Acts id c hand ⊤ Option.toList) :
    (transform h c w (.record r)).Acts id c hand ⊤ Option.toList := by
  have hmore : hand ⊆ (.record r :: r.values) ++ hand := List.subset_append_right _ _
  have hcomponent : ∀ x ∈ r.values, Derivable c hand x :=
    fun x hx => .component hv (List.mem_append_left _ hx)
  rw [transform_node hd hn hnode]
  refine .of_derivable (.record r :: r.values) (List.forall_mem_cons.mpr ⟨hv, hcomponent⟩) ?_
  have hrebuild := acts_rebuildNode (hq.mono hmore) List.mem_cons_self ht
    (fun x hx => List.mem_cons_of_mem _ (List.mem_append_left _ hx))
    fun x hx => (hi x hx).mono hmore
  refine hrebuild.andThen fun r' _ => acts_pure fun y hy => ?_
  refine (hw.rebuilt r' y (Option.mem_toList.mp hy)).mono ?_
  exact List.cons_subset_cons _ hmore

theorem acts_transform_map (hd : w.value (.map entries) = .proceed)
    (hv : Derivable c hand (.map entries))
    (hi : ∀ x ∈ (Value.map entries).components,
      (transform h c w x).Acts id c hand ⊤ Option.toList) :
    (transform h c w (.map entries)).Acts id c hand ⊤ Option.toList := by
  have hpart := Value.forall_parts_map_iff.mp fun x hx => hi x hx
  have hmore : hand ⊆ entries.map (·.1) ++ hand := List.subset_append_right _ hand
  have hkeys : ∀ k ∈ entries.map (·.1), Derivable c hand k :=
    List.forall_mem_map.mpr fun e he =>
      .component hv (List.mem_flatMap.mpr ⟨e, he, List.mem_cons_self⟩)
  rw [transform, hd]
  refine .of_derivable (entries.map (·.1)) hkeys ?_
  refine (acts_transformEntries (List.forall_mem_nil _) .nil
    (fun e he => List.mem_append_left _ (List.mem_map_of_mem he))
    fun e he => (hpart e he).2.mono hmore).andThen fun left _ => ?_
  exact acts_pure (List.forall_mem_singleton.mpr (.given List.mem_cons_self))

/-- By induction on the value. The decisions come first, and the containers are put together
again. -/
theorem acts_transform {v : Value} (hq : h.Acts id c hand ⊤) (hw : w.Derives c hand)
    (hp : v.Everywhere (Value.Proper c)) (hv : Derivable c hand v) :
    (transform h c w v).Acts id c hand ⊤ Option.toList := by
  induction v using Value.components_induction generalizing hand with
  | step v ih =>
    obtain ⟨hself, hparts⟩ := Value.everywhere_iff.mp hp
    have hreplace {x y : Value} (hx : Derivable c hand x) (hy : Derivable c (x :: hand) y) :
        (pure (some y) : Construct (Option Value)).Acts id c hand ⊤ Option.toList :=
      .of_derivable [x] (List.forall_mem_singleton.mpr hx)
        (acts_pure (List.forall_mem_singleton.mpr hy))
    have hbelow : ∀ x ∈ v.components, (transform h c w x).Acts id c hand ⊤ Option.toList :=
      fun x hx => ih x hx hq hw (hparts x hx) (.component hv hx)
    cases hd : w.value v with
    | remove =>
      rw [transform_of_remove hd]
      exact acts_pure (List.forall_mem_nil _)
    | replace v' =>
      rw [transform_of_replace hd]
      exact hreplace hv (hw.value v v' hd)
    | proceed =>
      cases v with
      | record r =>
        cases hn : r.isNode with
        | false =>
          rw [transform, hd]
          simp only [hn]
          exact acts_pure (List.forall_mem_singleton.mpr hv)
        | true =>
          cases hnode : w.node r with
          | remove =>
            rw [transform, hd]
            simp only [hn, if_true, hnode]
            exact acts_pure (List.forall_mem_nil _)
          | replace v' =>
            rw [transform, hd]
            simp only [hn, if_true, hnode]
            exact hreplace hv (hw.node r v' hnode)
          | proceed =>
            exact acts_transform_node hd hn hnode hq hw hself.lt_length hv
              fun x hx => hbelow x (List.mem_append_left _ hx)
      | list items =>
        rw [transform, hd]
        refine (acts_transformAll hbelow).andThen fun left _ => acts_pure ?_
        exact List.forall_mem_singleton.mpr (.list fun x hx => .given (List.mem_append_left _ hx))
      | tuple items =>
        rw [transform, hd]
        refine (acts_transformAll hbelow).andThen fun left _ => acts_pure ?_
        exact List.forall_mem_singleton.mpr (.tuple fun x hx => .given (List.mem_append_left _ hx))
      | set items =>
        rw [transform, hd]
        refine (acts_transformElements (List.nil_subset hand) .nil hbelow).andThen fun left _ => ?_
        exact acts_pure (List.forall_mem_singleton.mpr (.given List.mem_cons_self))
      | map entries => exact acts_transform_map hd hv hbelow
      | _ =>
        rw [transform_of_isAtom hd rfl]
        exact acts_pure (List.forall_mem_singleton.mpr hv)

end Transformer

end TypedTree
