import Mathlib.Data.List.SplitBy
import TypedTree.Proofs.Tree.Building
import TypedTree.Proofs.Tree.CarriedAnnotations

/-! # Translating a tree into itself -/

namespace TypedTree

open Construct

/-! ### Rebuilding from children that are the same -/

/-- What is left of a value is one that is the same besides numbers. -/
def Value.Copied (c : Catalog) (v : Value) (left : Option Value) : Prop :=
  ∃ v', left = some v' ∧ v.SameUpTo c .forgetNumbers v'

section

variable {h : Hooks} {c : Catalog} {r : Record}

/-- All fields are given an argument, and only children are given another one than before. -/
theorem gives_rebuildArguments {translate : Value → Construct (Option Value)} {fields : List Field}
    {values : List Value} (hi : ∀ f ∈ fields, f.flags.init = true)
    (hl : values.length = fields.length)
    (ht : ∀ p ∈ fields.zip values, p.1.kind = .child → (translate p.2).Gives (p.2.Copied c)) :
    (rebuildArguments translate fields values).Gives fun arguments => ∃ values',
      arguments = (fieldNames fields).zip values' ∧
      mapFields (Relabeling.forgetNumbers.enters true) (Value.relabel c .forgetNumbers)
          fields values =
        mapFields (Relabeling.forgetNumbers.enters true) (Value.relabel c .forgetNumbers)
          fields values' := by
  induction fields generalizing values with
  | nil =>
    obtain rfl := List.length_eq_zero_iff.mp hl
    exact gives_pure ⟨[], rfl, rfl⟩
  | cons f fields ih =>
    obtain ⟨v, values, rfl⟩ := List.exists_cons_of_length_eq_add_one hl
    obtain ⟨hf, hi⟩ := List.forall_mem_cons.mp hi
    obtain ⟨hv, ht⟩ := List.forall_mem_cons.mp ht
    have hfield : (translateField translate f v).Gives fun left => ∃ v', left = some v' ∧
        (if Relabeling.forgetNumbers.enters true f then v.relabel c .forgetNumbers else v) =
          if Relabeling.forgetNumbers.enters true f then v'.relabel c .forgetNumbers else v' := by
      rw [translateField]
      by_cases hk : f.kind = .child
      · simp only [Relabeling.enters_forgetNumbers_iff, hk, if_true]
        exact hv hk
      · simp only [Relabeling.enters_forgetNumbers_iff, hk, if_false]
        exact gives_pure ⟨v, rfl, rfl⟩
    simp only [rebuildArguments, hf, if_true]
    refine hfield.bind fun left hleft => (ih hi (Nat.succ.inj hl) ht).bind fun rest hrest => ?_
    obtain ⟨v', rfl, hsame⟩ := hleft
    obtain ⟨values', rfl, hvalues⟩ := hrest
    refine gives_pure ⟨v' :: values', rfl, ?_⟩
    rw [mapFields, mapFields, hsame, hvalues]

/-- A node that is rebuilt from such values is the same besides numbers. -/
theorem gives_reconstruct {values : List Value} (hp : Value.Proper c (.record r))
    (hs : (r.schema c).Indexed) (hnode : r.isNode = true)
    (hr : (r.schema c).Rebuildable h) (hc : r.Constructed h c)
    (hv : mapFields (Relabeling.forgetNumbers.enters true) (Value.relabel c .forgetNumbers)
        (r.schema c).fields r.values =
      mapFields (Relabeling.forgetNumbers.enters true) (Value.relabel c .forgetNumbers)
        (r.schema c).fields values) :
    (reconstruct h c r ((fieldNames (r.schema c).fields).zip values)).Gives fun r' =>
      Value.SameUpTo c .forgetNumbers (.record r) (.record r') := by
  obtain ⟨node, hinfo⟩ := Option.isSome_iff_exists.mp hnode
  have hdraft : ∀ s, Value.SameUpTo c .forgetNumbers (.record r.bare)
      (.record (draft c r.type s values)) := fun s =>
    (Record.sameUpTo_iff (Record.node_bare hinfo) (node_draft hc.isNode)).mpr ⟨rfl, hv, rfl, rfl⟩
  have hroot : ∀ hook ∈ (r.schema c).rootChecks, ∀ s s',
      ((h.rootCheck hook c (draft c r.type s values)).run s').1 = .ok () := by
    intro hook hm s s'
    obtain ⟨s₀, hcheck⟩ := hc.rootChecks hook hm
    exact hr.ignores.rootChecks hook hm c c r.bare _ s₀ s' (.refl c) (Record.proper_bare hp)
      (hdraft s) hcheck
  have hdistinct : (r.schema c).flags.scope = true → ∀ s,
      (((draft c r.type s values).declarations c).map (·.1)).Nodup := by
    intro hs s
    rw [Record.map_fst_declarations_of_sameUpTo (hdraft s), Record.map_fst_declarations_bare]
    exact hc.distinct hs
  have haccepts := accepts_of_constructed hp hr hc (forall₂_of_mapFields_eq hv)
  rw [reconstruct]
  refine (gives_construct hc.instantiable hs hr.init haccepts hroot hdistinct).bind
    fun rebuilt hrebuilt => gives_pure ?_
  obtain ⟨s, rfl⟩ := hrebuilt
  have hisNode : ((draft c r.type s values).withSymbols c).isNode = true := by
    rw [Record.isNode_withSymbols, isNode_draft]
    exact hc.isNode
  rw [if_pos hisNode]
  exact sameUpTo_withSymbols hc hnode (node_draft hc.isNode) (hdraft s)

end

/-! ### Translating -/

namespace Transformer

variable {h : Hooks} {c : Catalog} {items : List Value} {entries : List (Value × Value)}

theorem gives_transformAll
    (hi : ∀ x ∈ items, (transform h c {} x).Gives (x.Copied c)) :
    (transformAll h c {} items).Gives fun left =>
      items.map (Value.relabel c .forgetNumbers) = left.map (Value.relabel c .forgetNumbers) := by
  induction items with
  | nil => exact gives_pure rfl
  | cons x items ih =>
    obtain ⟨hx, hi⟩ := List.forall_mem_cons.mp hi
    rw [transformAll]
    refine hx.bind fun left hleft => (ih hi).bind fun rest hrest => ?_
    obtain ⟨x', rfl, hsame⟩ := hleft
    refine gives_pure ?_
    rw [List.map_cons, List.map_cons, hrest, hsame]

/-- No entry of a map is lost, for its keys are distinct and stay as they are. -/
theorem gives_transformEntries {placed : List (Value × Value)}
    (hd : Value.Distinct c ((placed ++ entries).map (·.1)))
    (hv : ∀ e ∈ entries, (transform h c {} e.2).Gives (e.2.Copied c)) :
    (transformEntries h c {} placed entries).Gives fun left =>
      (placed ++ entries).map (fun e => (e.1, e.2.relabel c .forgetNumbers)) =
        left.map fun e => (e.1, e.2.relabel c .forgetNumbers) := by
  induction entries generalizing placed with
  | nil =>
    refine gives_pure ?_
    rw [List.append_nil]
  | cons e entries ih =>
    obtain ⟨k, v⟩ := e
    obtain ⟨he, hv⟩ := List.forall_mem_cons.mp hv
    rw [transformEntries]
    refine he.bind fun left hleft => ?_
    obtain ⟨v', rfl, hsame⟩ := hleft
    have hkeys : (placed ++ (k, v) :: entries).map (·.1) =
        (placed ++ [(k, v')] ++ entries).map (·.1) := by simp
    have hnew : ¬ Value.Holds c (placed.map (·.1)) k := by
      rintro ⟨x, hx, he⟩
      rw [List.map_append, List.map_cons] at hd
      exact (List.pairwise_append.mp hd).2.2 x hx k List.mem_cons_self he
    have hmap : (placed ++ (k, v) :: entries).map (fun e => (e.1, e.2.relabel c .forgetNumbers)) =
        (placed ++ [(k, v')] ++ entries).map fun e => (e.1, e.2.relabel c .forgetNumbers) := by
      have hvalue : v.relabel c .forgetNumbers = v'.relabel c .forgetNumbers := hsame
      simp [hvalue]
    rw [putTransformed, Value.insertEntry_of_not_holds hnew, hmap]
    exact ih (hkeys ▸ hd) hv

/-- An element that is equal to none before it is added behind them. -/
theorem addTransformed_of_distinct {before : List Value} {x : Value}
    (hh : x.isHashable c = true) (hd : ∀ y ∈ before, ¬ y.Equal c x) :
    addTransformed c before (some x) = pure (before ++ [x]) := by
  have hhashable : x.ensureHashable c = .ok () := if_pos hh
  have hnew : ¬ Value.Holds c before x := fun ⟨y, hy, he⟩ => hd y hy he
  rw [addTransformed, hhashable, Value.insertElement_of_not_holds hnew]

/-- No element of a set is lost, for distinct values stay distinct. -/
theorem gives_transformElements {before : List Value} (hb : ∀ x ∈ before, Value.Proper c x)
    (hp : ∀ x ∈ items, Value.Proper c x) (hh : ∀ x ∈ items, x.isHashable c = true)
    (hd : Value.Distinct c ((before ++ items).map (Value.relabel c .forgetNumbers)))
    (hi : ∀ x ∈ items, (transform h c {} x).Gives (x.Copied c)) :
    (transformElements h c {} before items).Gives fun left =>
      (before ++ items).map (Value.relabel c .forgetNumbers) =
        left.map (Value.relabel c .forgetNumbers) := by
  induction items generalizing before with
  | nil =>
    refine gives_pure ?_
    rw [List.append_nil]
  | cons x items ih =>
    obtain ⟨hx, hi⟩ := List.forall_mem_cons.mp hi
    obtain ⟨hpx, hp⟩ := List.forall_mem_cons.mp hp
    obtain ⟨hhx, hh⟩ := List.forall_mem_cons.mp hh
    rw [transformElements]
    refine hx.bind fun left hleft => ?_
    obtain ⟨x', rfl, hsame⟩ := hleft
    have hpx' := hsame.proper hpx
    -- Relabeled, the elements so far are those before the translation, which are distinct from `x`.
    have hfresh : ∀ y ∈ before, ¬ y.Equal c x' := by
      intro y hy he
      rw [List.map_append, List.map_cons] at hd
      refine (List.pairwise_append.mp hd).2.2 _ (List.mem_map_of_mem hy) _ List.mem_cons_self ?_
      rw [hsame, hpx'.equal_relabel_iff (hpx'.relabel _) ((hb y hy).relabel _),
        Value.relabel_equal_iff]
      exact he
    rw [addTransformed_of_distinct (hsame.isHashable_iff.mp hhx) hfresh, pure_bind]
    have hmap : (before ++ x :: items).map (Value.relabel c .forgetNumbers) =
        (before ++ [x'] ++ items).map (Value.relabel c .forgetNumbers) := by
      rw [List.append_assoc, List.singleton_append, List.map_append, List.map_append,
        List.map_cons, List.map_cons, hsame]
    rw [hmap] at hd ⊢
    refine ih (fun y hy => ?_) hp hh hd hi
    rcases List.mem_append.mp hy with hy | hy
    · exact hb y hy
    · exact List.mem_singleton.mp hy ▸ hpx'

/-- A node is rebuilt once its children are translated. -/
theorem gives_transform_node {r : Record} (hc : c.Regular) (hp : Value.Proper c (.record r))
    (hn : r.isNode = true) (hr : (r.schema c).Rebuildable h) (hconstructed : r.Constructed h c)
    (ht : ∀ v ∈ r.childValues c, (transform h c {} v).Gives (v.Copied c)) :
    (transform h c {} (.record r)).Gives ((Value.record r).Copied c) := by
  have hindexed := (hc.schema r.type hp.lt_length).indexed
  have hchildren : ∀ p ∈ (r.schema c).fields.zip r.values, p.1.kind = .child →
      (transform h c {} p.2).Gives (p.2.Copied c) := by
    intro p hm hk
    exact ht p.2 (List.mem_filterMap.mpr ⟨p, hm, if_pos hk⟩)
  have harguments := gives_rebuildArguments hr.init hp.length_values hchildren
  rw [transform_node rfl hn rfl, rebuildNode]
  refine Gives.bind (harguments.bind fun arguments ha => ?_) fun r' hr' =>
    gives_pure ⟨.record r', rfl, hr'⟩
  obtain ⟨values, rfl, hvalues⟩ := ha
  exact gives_reconstruct hp hindexed hn hr hconstructed hvalues

/-- A transformer that makes no decisions leaves a value that is the same besides numbers. -/
theorem gives_transform {v : Value} (hc : c.Regular) (hp : Value.Proper c v)
    (hr : v.Reproducible h c) : (transform h c {} v).Gives (v.Copied c) := by
  induction hr with
  | atom hv =>
    have htransform : ∀ u : Value, u.isAtom = true → transform h c {} u = pure (some u) := by
      intro u hu
      cases u <;> first | rfl | cases hu
    rw [htransform _ hv]
    exact gives_pure ⟨_, rfl, rfl⟩
  | tuple _ ih =>
    rw [transform]
    refine (gives_transformAll fun x hx => ih x hx (hp.of_mem_parts hx)).bind fun left hleft => ?_
    refine gives_pure ⟨_, rfl, ?_⟩
    rw [Value.SameUpTo, Value.relabel_tuple, Value.relabel_tuple, hleft]
  | list _ ih =>
    rw [transform]
    refine (gives_transformAll fun x hx => ih x hx (hp.of_mem_parts hx)).bind fun left hleft => ?_
    refine gives_pure ⟨_, rfl, ?_⟩
    rw [Value.SameUpTo, Value.relabel_list, Value.relabel_list, hleft]
  | set hh _ ih =>
    have hrelabeled := hp.relabel .forgetNumbers
    rw [Value.relabel_set] at hrelabeled
    rw [transform]
    refine (gives_transformElements (List.forall_mem_nil _) (fun x hx => hp.of_mem_parts hx) hh
      hrelabeled.distinct_set fun x hx => ih x hx (hp.of_mem_parts hx)).bind fun left hleft => ?_
    refine gives_pure ⟨_, rfl, ?_⟩
    rw [Value.SameUpTo, Value.relabel_set, Value.relabel_set, ← hleft]
    rfl
  | map _ ih =>
    have hparts := Value.forall_parts_map_iff.mp fun x hx => hp.of_mem_parts hx
    rw [transform]
    refine (gives_transformEntries hp.distinct_keys
      fun e he => ih e he (hparts e he).2).bind fun left hleft => ?_
    refine gives_pure ⟨_, rfl, ?_⟩
    rw [Value.SameUpTo, Value.relabel_map, Value.relabel_map, ← hleft]
    rfl
  | @plain r hn =>
    rw [transform]
    simp only [hn]
    exact gives_pure ⟨_, rfl, rfl⟩
  | @node r hn hrebuild hconstructed _ ih =>
    refine gives_transform_node hc hp hn hrebuild hconstructed fun v hv => ih v hv ?_
    exact hp.of_mem_parts (r.mem_values_of_mem_childValues hv)

end Transformer

/-! ### What a reproduced tree has in common with the tree before -/

/-- A record of the same type, with the same annotations and internal fields and, if it is a scope,
with the same symbols. -/
structure Record.Mirrors (c : Catalog) (r r' : Record) : Prop where
  type : r'.type = r.type
  isNode : r'.isNode = r.isNode
  annotations : r'.allAnnotations c = r.allAnnotations c
  internals : r'.internals c = r.internals c
  symbols : r'.symbols?.map (·.names) = r.symbols?.map (·.names)

/-- A tree that is the same but for the numbers of nodes, those in symbol tables among them. It is
equal to the tree before, and at each place in pre-order it has a mirror of the record before. -/
structure Value.Reproduces (c : Catalog) (v v' : Value) : Prop where
  same : v.SameUpTo c .forgetNumbers v'
  equal : v'.Equal c v
  records : List.Forall₂ (fun x x' => ∀ r, x = .record r → ∃ r', x' = .record r' ∧ r.Mirrors c r')
    (v.items c .preOrder) (v'.items c .preOrder)

section

variable {c : Catalog} {r r' : Record} {v v' : Value}

/-- The numbers in plain records stay. -/
theorem relabel_forgetNumbers_of_plain (hn : r.node = none) :
    r.relabel c .forgetNumbers = r := by
  have hplain : r.isNode = false := by rw [Record.isNode, hn, Option.isSome_none]
  rw [Record.relabel_eq, mapFields_of_not_enters fun f => by rw [hplain]; rfl]
  cases r
  simp_all

theorem mirrors_of_sameUpTo (hs : Value.SameUpTo c .forgetNumbers (.record r) (.record r')) :
    r.Mirrors c r' := by
  have hisNode := Record.isNode_of_sameUpTo hs
  cases hn : r.node with
  | none =>
    have hn' : r'.node = none := by
      rw [Record.isNode, Record.isNode, hn] at hisNode
      exact Option.not_isSome_iff_eq_none.mp (by simp [hisNode])
    have hrelabel := Record.relabel_eq_of_sameUpTo hs
    rw [relabel_forgetNumbers_of_plain hn, relabel_forgetNumbers_of_plain hn'] at hrelabel
    subst hrelabel
    exact ⟨rfl, rfl, rfl, rfl, rfl⟩
  | some node =>
    have hnode : r.isNode = true := by
      rw [Record.isNode, hn]
      rfl
    have hkept : ∀ kind, kind ≠ .child → r'.ofKind c kind = r.ofKind c kind := by
      intro kind hk
      refine Record.ofKind_of_sameUpTo hs fun f hf => Bool.eq_false_iff.mpr ?_
      rw [hnode, Ne, Relabeling.enters_forgetNumbers_iff, hf]
      exact hk
    obtain ⟨node', hn'⟩ := Option.isSome_iff_exists.mp (hisNode.trans hnode)
    obtain ⟨htype, -, hinfo, hannotations⟩ := (Record.sameUpTo_iff hn hn').mp hs
    refine ⟨htype, hisNode, ?_, hkept .internal (by decide), ?_⟩
    · rw [Record.allAnnotations, Record.allAnnotations, hkept .note (by decide)]
      exact congrArg (r.ofKind c .note ++ ·) hannotations.symm
    · rw [Record.symbols?, Record.symbols?, hn, hn']
      exact ((NodeInfo.unnumbered_eq_iff node node').mp hinfo).symm

theorem Value.SameUpTo.reproduces (hs : v.SameUpTo c .forgetNumbers v') (hp : v.Proper c) :
    v.Reproduces c v' := by
  refine ⟨hs, hs.symm.equal (hs.proper hp), ?_⟩
  have hitems : List.Forall₂ (SameUpTo c .forgetNumbers) (v.items c .preOrder)
      (v'.items c .preOrder) := by
    have heq : (v.items c .preOrder).map (relabel c .forgetNumbers) =
        (v'.items c .preOrder).map (relabel c .forgetNumbers) := by
      rw [← items_relabel, hs, items_relabel]
    rw [← List.forall₂_eq_eq_eq, List.forall₂_map_left_iff, List.forall₂_map_right_iff] at heq
    exact heq
  refine hitems.imp fun x x' hx r hr => ?_
  subst hr
  obtain ⟨r', rfl, -⟩ := eq_record_of_relabel (hx.symm.trans (relabel_record r))
  exact ⟨r', rfl, mirrors_of_sameUpTo hx⟩

end

namespace World

variable {w : World}

/-- A transformer that makes no decisions reproduces every tree that is built, in every state. -/
theorem reproduces_of_built (hw : Reachable w) {h : Hooks} {v : Value} (hb : v.Built h w.catalog)
    (hn : v.NodeTypes w.catalog (Schema.Rebuildable h)) (s : State) :
    ∃ v', ((Transformer.transform h w.catalog {} v).exec s).1 = .ok (some v') ∧
      v.Reproduces w.catalog v' := by
  have hreproducible := hb.reproducible (.refl _) (fun _ => hw.sound.closed_of_extends) hn
  obtain ⟨left, he, v', rfl, hsame⟩ :=
    Transformer.gives_transform hw.regular hb.proper hreproducible s
  exact ⟨v', he, hsame.reproduces hb.proper⟩

/-! ### A scope that is annotated -/

/-- Checks that let strings pass. -/
def stringsOnly : PureHooks where
  factory _ _ := .none
  converter _ _ v := .ok v
  check _ _ _ v := if v.asString?.isSome then .ok () else .error "no string"
  rootCheck _ _ _ := .ok ()

/-- A node with a name that is checked. -/
def leafDeclaration : Declaration where
  session := 0
  name := "Leaf"
  kind := .node
  fields := [{
    name := "name"
    type := some (.scalar (.symbol (.ofSource "a|b")))
    coerces := true }]
  checks := [("name", 0)]

/-- A scope of any nodes. -/
def blockDeclaration : Declaration where
  session := 0
  name := "Block"
  kind := .node
  fields := [{ name := "body", type := some (.list .any) }]
  scope := true

def leafWorld : World :=
  openWorld.after (.declare leafDeclaration)

def blockWorld : World :=
  leafWorld.after (.declare blockDeclaration)

theorem reachable_blockWorld : Reachable blockWorld := by
  have hleaf : Reachable leafWorld := reachable_openWorld.step trivial ⟨by decide, by decide⟩
  exact hleaf.step trivial ⟨by decide, by decide⟩

theorem ignores_stringsOnly (g : Relabeling) (s : Schema) : s.Ignores stringsOnly.toHooks g where
  checks f _ hook _ c c' v v' s s' _ _ hs hv := by
    have hstring : v'.asString? = v.asString? := by
      rw [← Value.asString?_relabel (c := c') (g := g), ← hs, Value.asString?_relabel]
    have hchecks : ∀ (c : Catalog) (u : Value) (s : State),
      ((stringsOnly.toHooks.check hook c f u).run s).1 =
        if u.asString?.isSome then .ok () else .error "no string" := fun _ _ _ => rfl
    rw [hchecks] at hv ⊢
    rwa [hstring]
  rootChecks _ _ _ _ _ _ _ _ _ _ _ _ := rfl

theorem rebuildable_blockWorld {t : TypeId} (ht : t < blockWorld.catalog.schemas.length) :
    (blockWorld.catalog.schema t).Rebuildable stringsOnly.toHooks := by
  have hlength : blockWorld.catalog.schemas.length = 2 := rfl
  rw [hlength] at ht
  match t, ht with
  | 0, _ => exact ⟨by decide, by decide, ignores_stringsOnly _ _⟩
  | 1, _ => exact ⟨by decide, by decide, ignores_stringsOnly _ _⟩

/-- The state when a node is given the number next. -/
def numbering (id : NodeId) : State :=
  { sessions := [{ nextId := id }] }

def leaf (id : NodeId) (name : String) (annotations : List (String × Value)) : Record :=
  ⟨0, [.str name], some ⟨id, none⟩, annotations⟩

theorem exec_construct_leaf {name : String}
    (hn : (SymbolPattern.ofSource "a|b").accepts name = true) (id : NodeId) :
    ((construct stringsOnly.toHooks blockWorld.catalog 0 [("name", .str name)]).exec
      (numbering id)).1 = .ok (leaf id name []) := by
  have hvalid : (Ty.scalar (.symbol (.ofSource "a|b"))).validate blockWorld.catalog (.str name) =
      .ok () := (Ty.validate_eq_ok_iff _ _).mpr (.scalar (.symbol hn))
  have hfit : ArgumentsFit (blockWorld.catalog.schema 0) ["name"] :=
    ⟨List.nodup_singleton _, by simpa using ⟨_, rfl, rfl⟩⟩
  have htakes : FieldTakes stringsOnly blockWorld.catalog [("name", .str name)]
      (blockWorld.catalog.schema 0).fields[0] (.str name) :=
    .intro (.argument List.mem_cons_self) rfl hvalid fun hook _ => rfl
  have hconstructs : Constructs stringsOnly blockWorld.catalog 0 [("name", .str name)]
      (numbering id) (leaf id name []) :=
    .intro ⟨rfl, hfit, .cons htakes .nil⟩ (fun hook _ => rfl) fun hs => nomatch hs
  exact congrArg Prod.fst hconstructs.exec

/-- The body of a block, where the second leaf may be annotated. -/
def blockBody (seen : List (String × Value)) : Value :=
  .list [.record (leaf 1 "a" []), .record (leaf 2 "b" seen)]

def block (seen annotations : List (String × Value)) : Record :=
  ⟨1, [blockBody seen], some ⟨3, some ⟨[("a", 1), ("b", 2)]⟩⟩, annotations⟩

theorem declarations_leaf (id : NodeId) (name : String) :
    (Value.record (leaf id name [])).declarations blockWorld.catalog = [(name, id)] := by
  have hsymbols : (leaf id name []).symbolNames blockWorld.catalog = [name] := rfl
  have hchildren : (leaf id name []).childValues blockWorld.catalog = [.str name] := rfl
  rw [Value.declarations_record_of_atoms rfl rfl, hsymbols]
  · rfl
  · rw [hchildren]
    exact List.forall_mem_singleton.mpr rfl

theorem exec_construct_block :
    ((construct stringsOnly.toHooks blockWorld.catalog 1 [("body", blockBody [])]).exec
      (numbering 3)).1 = .ok (block [] []) := by
  have hdeclarations : (draft blockWorld.catalog 1 (numbering 3) [blockBody []]).declarations
      blockWorld.catalog = [("a", 1), ("b", 2)] := by
    have hchildren : (draft blockWorld.catalog 1 (numbering 3) [blockBody []]).childValues
      blockWorld.catalog = [blockBody []] := rfl
    have hlists := listsDeclarations blockWorld.catalog
    rw [Record.declarations_eq, Record.declarationsWith, hchildren, List.flatMap_singleton,
      blockBody, hlists.list, List.flatMap_cons, List.flatMap_singleton, declarations_leaf,
      declarations_leaf]
    rfl
  have hsymbols : (draft blockWorld.catalog 1 (numbering 3) [blockBody []]).withSymbols
      blockWorld.catalog = block [] [] := by
    rw [Record.withSymbols, hdeclarations]
    rfl
  have hfit : ArgumentsFit (blockWorld.catalog.schema 1) ["body"] :=
    ⟨List.nodup_singleton _, by simpa using ⟨_, rfl, rfl⟩⟩
  rw [exec_construct_eq_ok_iff, ← hsymbols]
  refine .intro rfl hfit rfl rfl fun _ => ?_
  rw [hdeclarations]
  decide

theorem built_leaf {name : String} (hn : (SymbolPattern.ofSource "a|b").accepts name = true)
    (id : NodeId) :
    Value.Built stringsOnly.toHooks blockWorld.catalog (.record (leaf id name [])) :=
  .construct (by decide) (exec_construct_leaf hn id)
    (List.forall_mem_singleton.mpr (.atom rfl))

/-- A leaf of a block is annotated, and then the block. -/
theorem built_block : Value.Built stringsOnly.toHooks blockWorld.catalog
    (.record (block [("seen", .bool true)] [("doc", .str "names")])) := by
  have hbody : Value.Built stringsOnly.toHooks blockWorld.catalog (blockBody []) := by
    refine .list fun v hv => ?_
    simp only [List.mem_cons, List.not_mem_nil, or_false] at hv
    rcases hv with rfl | rfl
    · exact built_leaf (by cbv) 1
    · exact built_leaf (by cbv) 2
  have hblock : Value.Built stringsOnly.toHooks blockWorld.catalog (.record (block [] [])) :=
    .construct (by decide) exec_construct_block (List.forall_mem_singleton.mpr hbody)
  have hseen : Value.Built stringsOnly.toHooks blockWorld.catalog
      (.record (block [("seen", .bool true)] [])) :=
    hblock.annotateBelow rfl (.of_all (fun t _ => ignores_stringsOnly _ _) hblock.proper)
  have hdoc : (block [("seen", .bool true)] []).annotate blockWorld.catalog "doc" (.str "names") =
    .ok (block [("seen", .bool true)] [("doc", .str "names")]) := rfl
  refine hseen.annotate ?_ hdoc
  rfl

/-- The block is reproduced with its annotations and its symbols. -/
theorem reproduces_block :
    ∃ r', ((Transformer.transform stringsOnly.toHooks blockWorld.catalog {}
      (.record (block [("seen", .bool true)] [("doc", .str "names")]))).exec blockWorld.state).1 =
        .ok (some (.record r')) ∧
      r'.allAnnotations blockWorld.catalog = [("doc", .str "names")] ∧
      r'.symbols?.map (·.names) = some ["a", "b"] := by
  have hnodes : Value.NodeTypes blockWorld.catalog (Schema.Rebuildable stringsOnly.toHooks)
      (.record (block [("seen", .bool true)] [("doc", .str "names")])) :=
    .of_all (fun t ht => rebuildable_blockWorld ht) built_block.proper
  obtain ⟨v', htransform, hreproduces⟩ :=
    reproduces_of_built reachable_blockWorld built_block hnodes blockWorld.state
  have hrecords := hreproduces.records
  rw [Value.items_preOrder_eq, Value.items_preOrder_eq _ v', List.forall₂_cons] at hrecords
  obtain ⟨r', rfl, hmirrors⟩ := hrecords.1 _ rfl
  exact ⟨r', htransform, hmirrors.annotations, hmirrors.symbols⟩

end World

/-! ### A check that sees annotations -/

/-- The value is a record that carries a dynamic annotation. -/
def Value.isMarked : Value → Bool
  | .record r => !r.annotations.isEmpty
  | _ => false

theorem Value.isMarked_relabel_forgetNumbers (c : Catalog) (v : Value) :
    (v.relabel c .forgetNumbers).isMarked = v.isMarked := by
  cases v with
  | record r =>
    rw [relabel_record, isMarked, isMarked, Record.relabel_eq]
    dsimp only
    split <;> rfl
  | _ => rfl

namespace World

/-- Checks that let values pass unless they are marked. -/
def unmarkedOnly : PureHooks where
  factory _ _ := .none
  converter _ _ v := .ok v
  check _ _ _ v := if v.isMarked then .error "marked" else .ok ()
  rootCheck _ _ _ := .ok ()

theorem ignores_unmarkedOnly (s : Schema) : s.Ignores unmarkedOnly.toHooks .forgetNumbers where
  checks f _ hook _ c c' v v' s s' _ _ hs hv := by
    have hmarked : v'.isMarked = v.isMarked := by
      rw [← Value.isMarked_relabel_forgetNumbers c', ← hs, Value.isMarked_relabel_forgetNumbers]
    have hchecks : ∀ (c : Catalog) (u : Value) (s : State),
      ((unmarkedOnly.toHooks.check hook c f u).run s).1 =
        if u.isMarked then .error "marked" else .ok () := fun _ _ _ => rfl
    rw [hchecks] at hv ⊢
    rwa [hmarked]
  rootChecks _ _ _ _ _ _ _ _ _ _ _ _ := rfl

/-- A node whose content is checked. -/
def boxDeclaration : Declaration where
  session := 0
  name := "Box"
  kind := .node
  fields := [{ name := "content", type := some .any }]
  checks := [("content", 0)]

def boxWorld : World :=
  openWorld.after (.declare boxDeclaration)

theorem reachable_boxWorld : Reachable boxWorld :=
  reachable_openWorld.step trivial ⟨by decide, by decide⟩

def box (id : NodeId) (content : Value) (annotations : List (String × Value)) : Record :=
  ⟨0, [content], some ⟨id, none⟩, annotations⟩

theorem rebuildable_boxWorld {t : TypeId} (ht : t < boxWorld.catalog.schemas.length) :
    (boxWorld.catalog.schema t).Rebuildable unmarkedOnly.toHooks := by
  have hlength : boxWorld.catalog.schemas.length = 1 := rfl
  rw [hlength] at ht
  match t, ht with
  | 0, _ => exact ⟨by decide, by decide, ignores_unmarkedOnly _⟩

theorem built_box {id : NodeId} {content : Value}
    (hb : content.Built unmarkedOnly.toHooks boxWorld.catalog)
    (hc : ((construct unmarkedOnly.toHooks boxWorld.catalog 0 [("content", content)]).exec
      (numbering id)).1 = .ok (box id content [])) :
    Value.Built unmarkedOnly.toHooks boxWorld.catalog (.record (box id content [])) :=
  .construct (by decide) hc (List.forall_mem_singleton.mpr hb)

/-- A box in a box is annotated once the outer one is there, whose check rejects it when it is
constructed again. -/
theorem not_reproduces_of_annotated :
    ¬ ∀ (w : World) (h : Hooks) (v annotated : Value) (s : State), Reachable w →
      v.Built h w.catalog → v.SameUpTo w.catalog .forgetAnnotations annotated →
      annotated.NodeTypes w.catalog (Schema.Rebuildable h) →
      ∃ left, ((Transformer.transform h w.catalog {} annotated).exec s).1 = .ok (some left) ∧
        annotated.Reproduces w.catalog left := by
  intro hall
  let inner (id : NodeId) (annotations : List (String × Value)) : Value :=
    .record (box id .none annotations)
  let outer (annotations : List (String × Value)) : Value :=
    .record (box 2 (inner 1 annotations) [])
  have hinner : (inner 1 []).Built unmarkedOnly.toHooks boxWorld.catalog :=
    built_box (.atom rfl) rfl
  have houter : (outer []).Built unmarkedOnly.toHooks boxWorld.catalog := built_box hinner rfl
  have hsame : (outer []).SameUpTo boxWorld.catalog .forgetAnnotations
    (outer [("seen", .bool true)]) := rfl
  have hproper : (outer [("seen", .bool true)]).Proper boxWorld.catalog := hsame.proper houter.proper
  obtain ⟨left, hleft, -⟩ := hall boxWorld unmarkedOnly.toHooks (outer [])
    (outer [("seen", .bool true)]) (numbering 3) reachable_boxWorld houter hsame
    (.of_all (fun t ht => rebuildable_boxWorld ht) hproper)
  have hrejected : ((Transformer.transform unmarkedOnly.toHooks boxWorld.catalog {}
    (outer [("seen", .bool true)])).exec (numbering 3)).1 =
      .error (.checkFailed 0 "content" (inner 3 [("seen", .bool true)]) "marked") := rfl
  cases hleft.symm.trans hrejected

end World

end TypedTree
