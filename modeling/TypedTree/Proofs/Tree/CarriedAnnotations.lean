import TypedTree.Proofs.Construction.Success
import TypedTree.Proofs.Tree.Rebuilding
import TypedTree.Proofs.World.FieldRoles

/-! # Annotations of rebuilt nodes -/

namespace TypedTree

open Construct

/-! ### What becomes of annotations -/

/-- What becomes of a declared annotation: it is converted again and, where construction does not
accept it, makes way for the default. -/
inductive CarriesNote (h : Hooks) (c : Catalog) (t : TypeId) (f : Field) (v : Value) :
    Value → Prop where
  | given {s : State} {v' : Value} (hi : f.flags.init = true)
      (hc : ((convertValue h c t f v).exec s).1 = .ok v') : CarriesNote h c t f v v'
  | left {s s' : State} {raw v' : Value} (hi : f.flags.init = false)
      (hr : ((rawValue h c t [] f).exec s).1 = .ok raw)
      (hc : ((convertValue h c t f raw).exec s').1 = .ok v') : CarriesNote h c t f v v'

/-- Neither a default nor a conversion takes the place of the value. -/
structure Field.Keeps (c : Catalog) (f : Field) (v : Value) : Prop where
  init : f.flags.init = true
  converter : f.converter = none
  valid : f.coerces = true → f.type.validate c v = .ok ()

/-- How a rebuilt node carries the annotations of the one that it was made from. -/
structure CarriesAnnotations (h : Hooks) (c : Catalog) (r r' : Record) : Prop where
  type : r'.type = r.type
  dynamic : r'.annotations = r.annotations
  names : (r'.allAnnotations c).map (·.1) = (r.allAnnotations c).map (·.1)
  declared : ∀ (i : Nat) (f : Field) (v : Value), (r.schema c).fields[i]? = some f →
    r.values[i]? = some v → f.kind = .note →
    ∃ v', r'.values[i]? = some v' ∧ CarriesNote h c r.type f v v'
  same : (∀ (i : Nat) (f : Field) (v : Value), (r.schema c).fields[i]? = some f →
    r.values[i]? = some v → f.kind = .note → f.Keeps c v) →
    r'.allAnnotations c = r.allAnnotations c

section

variable {h : Hooks} {c : Catalog} {t : TypeId} {r r' : Record} {f : Field} {v v' : Value}
  {arguments : List (String × Value)} {s : State}

theorem CarriesNote.eq_of_keeps (h : CarriesNote h c t f v v') (hk : f.Keeps c v) : v' = v := by
  cases h with
  | given hi hc =>
    rw [convertValue_of_valid hk.converter hk.valid] at hc
    exact (Except.ok.inj hc).symm
  | left hi => exact absurd (hi.symm.trans hk.init) Bool.false_ne_true

namespace Schema

variable {α : Type} {schema : Schema} {p : Field → Bool} {xs ys : List α}

/-- Where there is something for each field, only the fields determine which names are selected. -/
theorem map_fst_select (hl : xs.length = schema.fields.length) :
    (schema.select p xs).map (·.1) = (schema.fields.filter p).map (·.name) := by
  have hfields : schema.fields = (schema.fields.zip xs).map (·.1) :=
    (List.map_fst_zip (Nat.le_of_eq hl.symm)).symm
  conv => rhs; rw [hfields]
  rw [select, List.map_filterMap, List.filter_map, List.map_map, ← List.filterMap_eq_map,
    List.filterMap_filter]
  refine List.filterMap_congr fun e _ => ?_
  by_cases hp : p e.1 = true
  · simp [hp]
  · simp [hp]

/-- Only what stands at the places of the selected fields matters. -/
theorem select_congr (hx : xs.length = schema.fields.length)
    (hy : ys.length = schema.fields.length) (h : ∀ (i : Nat) (f : Field) (x y : α),
      schema.fields[i]? = some f → xs[i]? = some x → ys[i]? = some y → p f = true → x = y) :
    schema.select p xs = schema.select p ys := by
  rw [select, select]
  generalize schema.fields = fields at hx hy h
  induction fields generalizing xs ys with
  | nil => rfl
  | cons f fields ih =>
    obtain ⟨x, xs, rfl⟩ := List.exists_cons_of_length_eq_add_one hx
    obtain ⟨y, ys, rfl⟩ := List.exists_cons_of_length_eq_add_one hy
    have hrest := ih (Nat.succ.inj hx) (Nat.succ.inj hy) fun i => h (i + 1)
    rw [List.zip_cons_cons, List.zip_cons_cons, List.filterMap_cons, List.filterMap_cons, hrest]
    by_cases hp : p f = true
    · rw [h 0 f x y rfl rfl rfl hp]
    · simp [hp]

end Schema

/-! ### The carried annotations -/

/-- A node that is constructed again has the type and the dynamic annotations of the one before, and
its fields are filled from the arguments. -/
theorem fills_of_exec_reconstruct (hn : (r.schema c).isNode = true)
    (he : ((reconstruct h c r arguments).exec s).1 = .ok r') :
    r'.type = r.type ∧ r'.annotations = r.annotations ∧
      ArgumentsFit (r.schema c) (arguments.map (·.1)) ∧
      List.Forall₂ (Fills h c r.type arguments) (r.schema c).fields r'.values := by
  obtain ⟨rebuilt, hc, hr⟩ := exec_reconstruct_eq_ok_iff.mp he
  obtain ⟨ha, hfills⟩ := fills_of_construct hc
  obtain @⟨values, s₁, -, -, -, -, -⟩ := exec_construct_eq_ok_iff.mp hc
  have hnode : ((draft c r.type s₁ values).withSymbols c).isNode = true := by
    rw [Record.isNode_withSymbols, isNode_draft]
    exact hn
  rw [if_pos hnode] at hr
  rw [hr]
  exact ⟨Record.type_withSymbols c _, rfl, ha, hfills⟩

theorem exists_getElem?_of_forall₂ {α β : Type} {R : α → β → Prop} {xs : List α} {ys : List β}
    {i : Nat} {x : α} (h : List.Forall₂ R xs ys) (hx : xs[i]? = some x) :
    ∃ y, ys[i]? = some y ∧ R x y := by
  obtain ⟨hi, rfl⟩ := List.getElem?_eq_some_iff.mp hx
  have hi' : i < ys.length := h.length_eq ▸ hi
  exact ⟨ys.get ⟨i, hi'⟩, List.getElem?_eq_getElem hi', h.get hi hi'⟩

/-- The value of a field that takes no translated argument comes from the value before. -/
theorem carriesNote_of_fills (hn : (fieldNames (c.schema t).fields).Nodup)
    (hl : LeavesArguments (c.schema t).fields r.values arguments)
    (ha : ArgumentsFit (c.schema t) (arguments.map (·.1))) {i : Nat}
    (hf : (c.schema t).fields[i]? = some f) (hv : r.values[i]? = some v) (hk : f.kind = .note)
    (hfills : Fills h c t arguments f v') : CarriesNote h c t f v v' := by
  obtain @⟨raw, _, s₁, s₂, hraw, hc, -, -⟩ := hfills
  cases hi : f.flags.init with
  | true =>
    have hgiven : (f.name, v) ∈ arguments := hl.kept i f v hf hv hi (by simp [hk])
    rw [rawValue_of_mem ha.nodup hgiven] at hraw
    obtain rfl := Except.ok.inj hraw
    exact .given hi hc
  | false =>
    have hleft : f.name ∉ arguments.map (·.1) := by
      intro hm
      obtain ⟨g, hg, hname, hgi⟩ := hl.accepted _ hm
      obtain rfl := List.inj_on_of_nodup_map hn hg (List.mem_of_getElem? hf) hname
      exact Bool.false_ne_true (hi.symm.trans hgi)
    rw [rawValue_of_not_mem hleft] at hraw
    exact .left hi hraw hc

end

namespace World

variable {w : World}

theorem carriesAnnotations_of_reconstruct (hw : Reachable w) {h : Hooks} {r r' : Record}
    {arguments : List (String × Value)} {s : State} (hn : (r.schema w.catalog).isNode = true)
    (hl : r.values.length = (r.schema w.catalog).fields.length)
    (hleaves : LeavesArguments (r.schema w.catalog).fields r.values arguments)
    (hr : ((reconstruct h w.catalog r arguments).exec s).1 = .ok r') :
    CarriesAnnotations h w.catalog r r' := by
  obtain ⟨htype, hdynamic, ha, hfills⟩ := fills_of_exec_reconstruct hn hr
  have hl' : r'.values.length = (r.schema w.catalog).fields.length := hfills.length_eq.symm
  have hdeclared : ∀ (i : Nat) (f : Field) (v : Value), (r.schema w.catalog).fields[i]? = some f →
      r.values[i]? = some v → f.kind = .note →
      ∃ v', r'.values[i]? = some v' ∧ CarriesNote h w.catalog r.type f v v' := by
    intro i f v hf hv hk
    have hlt := lt_length_of_mem_fields (List.mem_of_getElem? hf)
    obtain ⟨v', hv', hfill⟩ := exists_getElem?_of_forall₂ hfills hf
    exact ⟨v', hv', carriesNote_of_fills (hw.regular.schema _ hlt).names hleaves ha hf hv hk hfill⟩
  have hschema : r'.schema w.catalog = r.schema w.catalog := by
    rw [Record.schema, Record.schema, htype]
  refine ⟨htype, hdynamic, ?_, hdeclared, fun hkeeps => ?_⟩
  · rw [Record.allAnnotations, Record.allAnnotations, Record.ofKind, Record.ofKind, hdynamic,
      hschema, List.map_append, List.map_append, Schema.map_fst_select hl',
      Schema.map_fst_select hl]
  · rw [Record.allAnnotations, Record.allAnnotations, Record.ofKind, Record.ofKind, hdynamic,
      hschema]
    refine congrArg (· ++ r.annotations)
      (Schema.select_congr hl' hl fun i f v' v hf hv' hv hk => ?_)
    have hnote : f.kind = .note := eq_of_beq hk
    obtain ⟨v₁, hv₁, hcarries⟩ := hdeclared i f v hf hv hnote
    obtain rfl := Option.some.inj (hv₁.symm.trans hv')
    exact hcarries.eq_of_keeps (hkeeps i f v hf hv hnote)

/-- Whatever a translator does with the children of a node: if the node can be constructed again,
its annotations are carried over as far as construction gives declared ones back. -/
theorem carriesAnnotations_of_rebuildNode (hw : Reachable w) {h : Hooks} {σ : Type}
    {translate : Value → StateT σ Construct (Option Value)} {x x' : σ} {s : State} {r r' : Record}
    (hn : (r.schema w.catalog).isNode = true)
    (hl : r.values.length = (r.schema w.catalog).fields.length)
    (he : (((rebuildNode h w.catalog translate r).run x).exec s).1 = .ok (r', x')) :
    CarriesAnnotations h w.catalog r r' := by
  obtain ⟨arguments, s', hleaves, hr⟩ := exists_reconstruct_of_rebuildNode he
  exact carriesAnnotations_of_reconstruct hw hn hl hleaves hr

/-- A transformer that makes no decision on a node before it is rebuilt is such a translator. -/
theorem carriesAnnotations_of_transform (hw : Reachable w) {h : Hooks} {t : Transformer}
    {s : State} {r : Record} {result : Option Value} (hr : r.isNode = true)
    (hn : (r.schema w.catalog).isNode = true)
    (hl : r.values.length = (r.schema w.catalog).fields.length)
    (hv : t.value (.record r) = .proceed) (hd : t.node r = .proceed)
    (he : ((t.transform h w.catalog (.record r)).exec s).1 = .ok result) :
    ∃ r', result = t.rebuilt r' ∧ CarriesAnnotations h w.catalog r r' := by
  rw [Transformer.transform_node hv hr hd] at he
  obtain ⟨r', s', hrebuilt, he⟩ := exec_bind_eq_ok_iff.mp he
  refine ⟨r', (Except.ok.inj he).symm, ?_⟩
  have hlifted : (((rebuildNode (m := StateT Unit Construct) h w.catalog
      (fun v => liftM (t.transform h w.catalog v)) r).run ()).exec s).1 = .ok (r', ()) := by
    rw [run_rebuildNode_lift, map_eq_pure_bind, exec_bind_of_ok hrebuilt]
    rfl
  obtain ⟨arguments, s'', hleaves, hr⟩ := exists_reconstruct_of_rebuildNode hlifted
  exact carriesAnnotations_of_reconstruct hw hn hl hleaves hr

/-! ### An annotation that construction does not accept -/

/-- A node type with two annotations. Construction gives one of them its default only. -/
def notedDeclaration : Declaration where
  session := 0
  name := "Noted"
  kind := .node
  fields := [{ name := "kept_attr_", type := some .any, default := some .none },
    { name := "lost_attr_", type := some .any, default := some .none, init := false }]

def notedWorld : World :=
  openWorld.after (.declare notedDeclaration)

theorem reachable_notedWorld : Reachable notedWorld :=
  reachable_openWorld.step trivial ⟨by decide, by decide⟩

/-- A node by the values of its two annotations. -/
def noted (id : NodeId) (kept lost : Value) : Record :=
  ⟨0, [kept, lost], some ⟨id, none⟩, []⟩

/-- A translator that leaves everything as it is. -/
def keepAll (v : Value) : StateT Unit Construct (Option Value) :=
  pure (some v)

/-- Once both annotations are assigned, a node that is rebuilt keeps the first one. -/
theorem carriesAnnotations_noted :
    ∃ r', (((rebuildNode PureHooks.permissive.toHooks notedWorld.catalog keepAll
      (noted 1 (.str "u") (.str "v"))).run ()).exec notedWorld.state).1 = .ok (r', ()) ∧
      (r'.allAnnotations notedWorld.catalog).map (·.1) = ["kept_attr_", "lost_attr_"] ∧
      ∃ v', r'.values[0]? = some v' ∧
        CarriesNote PureHooks.permissive.toHooks notedWorld.catalog 0
          (notedWorld.catalog.schema 0).fields[0] (.str "u") v' := by
  have hrebuilt : (((rebuildNode PureHooks.permissive.toHooks notedWorld.catalog keepAll
      (noted 1 (.str "u") (.str "v"))).run ()).exec notedWorld.state).1 =
      .ok (noted 1 (.str "u") .none, ()) := rfl
  have hcarries := carriesAnnotations_of_rebuildNode reachable_notedWorld rfl rfl hrebuilt
  refine ⟨_, hrebuilt, ?_⟩
  exact ⟨hcarries.names, hcarries.declared 0 _ _ rfl rfl rfl⟩

/-- A rebuilt node may lose the value of an annotation. -/
theorem not_carries_all_annotations :
    ¬ ∀ (w : World) (h : Hooks) (s s₁ s₂ : State) (t : TypeId) (given : List (String × Value))
        (r r₁ r' : Record) (name : String) (v : Value) (σ : Type)
        (translate : Value → StateT σ Construct (Option Value)) (x x' : σ),
      Reachable w → (w.catalog.schema t).isNode = true →
      (construct h w.catalog t given).exec s = (.ok r, s₁) →
      r.annotate w.catalog name v = .ok r₁ →
      ((rebuildNode h w.catalog translate r₁).run x).exec s₁ = (.ok (r', x'), s₂) →
      List.Forall₂ (fun e e' => e.1 = e'.1 ∧ e.2.Equal w.catalog e'.2)
        (r₁.allAnnotations w.catalog) (r'.allAnnotations w.catalog) := by
  intro hall
  have hequal := hall notedWorld PureHooks.permissive.toHooks notedWorld.state _ _ 0 []
    (noted 1 .none .none) (noted 1 .none (.str "v")) (noted 2 .none .none) "lost_attr_" (.str "v")
    Unit keepAll () () reachable_notedWorld rfl rfl rfl rfl
  have hnotes : (noted 1 .none (.str "v")).allAnnotations notedWorld.catalog =
    [("kept_attr_", .none), ("lost_attr_", .str "v")] := rfl
  have hnotes' : (noted 2 .none .none).allAnnotations notedWorld.catalog =
    [("kept_attr_", .none), ("lost_attr_", .none)] := rfl
  rw [hnotes, hnotes', List.forall₂_cons, List.forall₂_cons] at hequal
  have hlost : Value.eqv notedWorld.catalog (.str "v") .none = false := rfl
  exact Bool.false_ne_true (hlost.symm.trans hequal.2.1.2)

end World

end TypedTree
