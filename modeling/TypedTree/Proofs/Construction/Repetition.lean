import TypedTree.Proofs.Construction.Success
import TypedTree.Proofs.Tree.Extension
import TypedTree.Proofs.Tree.Resolution
import TypedTree.Proofs.Validation.Extension

/-! # Nodes that pass construction again -/

namespace TypedTree

open Construct

/-! ### Checks that ignore what is forgotten -/

namespace Hooks

variable (h : Hooks) (g : Relabeling) (hook : HookId)

/-- The check lets pass what differs in what is relabeled only from what it let pass before, in
whatever state and whatever types were added since. -/
def CheckIgnores (f : Field) : Prop :=
  ∀ (c c' : Catalog) (v v' : Value) (s s' : State), c.Extends c' → v.Proper c →
    v.SameUpTo c' g v' → ((h.check hook c f v).run s).1 = .ok () →
    ((h.check hook c' f v').run s').1 = .ok ()

/-- The same for a check of whole instances. -/
def RootCheckIgnores : Prop :=
  ∀ (c c' : Catalog) (r r' : Record) (s s' : State), c.Extends c' → Value.Proper c (.record r) →
    Value.SameUpTo c' g (.record r) (.record r') → ((h.rootCheck hook c r).run s).1 = .ok () →
    ((h.rootCheck hook c' r').run s').1 = .ok ()

end Hooks

/-- All checks of a type ignore what is relabeled. -/
structure Schema.Ignores (h : Hooks) (g : Relabeling) (s : Schema) : Prop where
  checks : ∀ f ∈ s.fields, ∀ hook ∈ f.checks, h.CheckIgnores g hook f
  rootChecks : ∀ hook ∈ s.rootChecks, h.RootCheckIgnores g hook

/-- Construction accepts all fields of a type and converts none but by coercion, and its checks
ignore numbers. -/
structure Schema.Rebuildable (h : Hooks) (s : Schema) : Prop where
  init : ∀ f ∈ s.fields, f.flags.init = true
  converter : ∀ f ∈ s.fields, f.converter = none
  ignores : s.Ignores h .forgetNumbers

/-! ### Constructed nodes -/

namespace Record

/-- A node as its checks see it, without symbols and dynamic annotations. -/
def bare (r : Record) : Record :=
  { r with node := r.node.map fun node => ⟨node.id, none⟩, annotations := [] }

/-- What construction leaves of a node, besides dynamic annotations. -/
structure Constructed (h : Hooks) (c : Catalog) (r : Record) : Prop where
  isNode : (r.schema c).isNode = true
  instantiable : (r.schema c).flags.abstract = false
  fields : List.Forall₂ (fun f v => f.type.validate c v = .ok () ∧
    ∀ hook ∈ f.checks, ∃ s, ((h.check hook c f v).run s).1 = .ok ()) (r.schema c).fields r.values
  rootChecks : ∀ hook ∈ (r.schema c).rootChecks, ∃ s, ((h.rootCheck hook c r.bare).run s).1 = .ok ()
  distinct : (r.schema c).flags.scope = true → ((r.declarations c).map (·.1)).Nodup
  symbols : r.symbols?.map (·.names) =
    if (r.schema c).flags.scope then some ((r.declarations c).map (·.1)) else none

variable {h : Hooks} {c c' : Catalog} {g : Relabeling} {r r' : Record}

theorem proper_bare (hp : Value.Proper c (.record r)) : Value.Proper c (.record r.bare) :=
  .record hp.lt_length hp.length_values fun _ hv => hp.of_mem_parts hv

theorem node_bare {node : NodeInfo} (hn : r.node = some node) :
    r.bare.node = some ⟨node.id, none⟩ := by
  rw [bare, hn]
  rfl

theorem map_fst_declarations_bare (c : Catalog) (r : Record) :
    (r.bare.declarations c).map (·.1) = (r.declarations c).map (·.1) := by
  rw [declarations_eq, declarations_eq, map_fst_declarationsWith, map_fst_declarationsWith, isNode,
    bare, Option.isSome_map]
  rfl

theorem bare_withSymbols (c : Catalog) (r : Record) : (r.withSymbols c).bare = r.bare := by
  rw [withSymbols]
  split
  · cases hn : r.node <;> simp [bare, hn]
  · rfl

theorem schema_withSymbols (c : Catalog) (r : Record) :
    (r.withSymbols c).schema c = r.schema c := by
  rw [schema, type_withSymbols, schema]

/-- A node without symbols is given those of a scope only. -/
theorem map_names_withSymbols {id : NodeId} (hn : r.node = some ⟨id, none⟩) :
    (r.withSymbols c).symbols?.map (·.names) =
      if (r.schema c).flags.scope then some ((r.declarations c).map (·.1)) else none := by
  by_cases hs : (r.schema c).flags.scope = true
  · rw [if_pos hs, symbols?_withSymbols hs hn]
    rfl
  · rw [if_neg hs, withSymbols, if_neg hs, symbols?, hn]
    rfl

end Record

section

variable {h : Hooks} {c : Catalog} {t : TypeId} {s : State} {values : List Value}

theorem node_draft (hn : (c.schema t).isNode = true) : (draft c t s values).node =
    some ⟨(s.session (c.schema t).session).nextId, none⟩ :=
  if_pos hn

theorem bare_draft : (draft c t s values).bare = draft c t s values := by
  rw [draft, Record.bare]
  cases (c.schema t).isNode <;> rfl

theorem Record.Constructed.of_construct {arguments : List (String × Value)} {r : Record}
    (he : ((construct h c t arguments).exec s).1 = .ok r) (hn : r.isNode = true) :
    r.Constructed h c := by
  have hfills := (fills_of_construct he).2
  obtain @⟨values, s₁, hi, -, -, hr, hs⟩ := exec_construct_eq_ok_iff.mp he
  rw [isNode_withSymbols, isNode_draft] at hn
  constructor
  · exact (schema_withSymbols c _).symm ▸ hn
  · exact (schema_withSymbols c _).symm ▸ hi
  · rw [schema_withSymbols]
    exact hfills.imp fun f v ⟨_, _, hvalid, hchecks⟩ => ⟨hvalid, hchecks⟩
  · rw [schema_withSymbols, bare_withSymbols, bare_draft]
    exact checks_of_exec_runRootChecks hr
  · rw [schema_withSymbols, declarations_withSymbols]
    exact hs
  · rw [schema_withSymbols, declarations_withSymbols]
    exact map_names_withSymbols (node_draft hn)

end

theorem forall₂_trans_of_mem {α β γ : Type} {R : α → β → Prop} {S : β → γ → Prop}
    {T : α → γ → Prop} {xs : List α} {ys : List β} {zs : List γ}
    (h : ∀ x ∈ xs, ∀ y ∈ ys, ∀ z, R x y → S y z → T x z) (hr : List.Forall₂ R xs ys)
    (hs : List.Forall₂ S ys zs) : List.Forall₂ T xs zs := by
  induction hr generalizing zs with
  | nil => exact List.forall₂_nil_left_iff.mpr (List.forall₂_nil_left_iff.mp hs)
  | cons hxy _ ih =>
    cases hs with
    | cons hyz hs =>
      refine .cons (h _ List.mem_cons_self _ List.mem_cons_self _ hxy hyz) (ih ?_ hs)
      exact fun x hx y hy => h x (List.mem_cons_of_mem _ hx) y (List.mem_cons_of_mem _ hy)

namespace Record

variable {h : Hooks} {c c' : Catalog} {g : Relabeling} {r r' : Record}

/-! ### Nodes that are the same up to what is relabeled -/

theorem relabel_eq_of_sameUpTo (hs : Value.SameUpTo c g (.record r) (.record r')) :
    r.relabel c g = r'.relabel c g := by
  rw [Value.SameUpTo, Value.relabel_record, Value.relabel_record] at hs
  exact Value.record.inj hs

theorem type_of_sameUpTo (hs : Value.SameUpTo c g (.record r) (.record r')) :
    r'.type = r.type := by
  rw [← type_relabel (c := c) (g := g), ← relabel_eq_of_sameUpTo hs, type_relabel]

theorem schema_of_sameUpTo (hs : Value.SameUpTo c g (.record r) (.record r')) :
    r'.schema c = r.schema c :=
  congrArg c.schema (type_of_sameUpTo hs)

theorem isNode_of_sameUpTo (hs : Value.SameUpTo c g (.record r) (.record r')) :
    r'.isNode = r.isNode := by
  rw [← isNode_relabel (c := c) (g := g), ← relabel_eq_of_sameUpTo hs, isNode_relabel]

theorem childValues_of_sameUpTo (hs : Value.SameUpTo c g (.record r) (.record r'))
    (hn : r.isNode = true) :
    (r.childValues c).map (Value.relabel c g) = (r'.childValues c).map (Value.relabel c g) := by
  have hn' := (isNode_of_sameUpTo hs).trans hn
  rw [← childValues_relabel hn, ← childValues_relabel hn', relabel_eq_of_sameUpTo hs]

theorem map_fst_declarations_of_sameUpTo (hs : Value.SameUpTo c g (.record r) (.record r')) :
    (r'.declarations c).map (·.1) = (r.declarations c).map (·.1) := by
  rw [← r'.map_fst_declarations_relabel (g := g), ← relabel_eq_of_sameUpTo hs,
    r.map_fst_declarations_relabel]

theorem ofKind_of_sameUpTo (hs : Value.SameUpTo c g (.record r) (.record r')) {kind : FieldKind}
    (hk : ∀ f : Field, f.kind = kind → g.enters r.isNode f = false) :
    r'.ofKind c kind = r.ofKind c kind := by
  rw [← r.ofKind_relabel hk, relabel_eq_of_sameUpTo hs, r'.ofKind_relabel]
  rwa [isNode_of_sameUpTo hs]

/-- Two nodes are the same if that is so for what they carry and for their fields. -/
theorem sameUpTo_iff {node node' : NodeInfo} (hn : r.node = some node)
    (hn' : r'.node = some node') :
    Value.SameUpTo c g (.record r) (.record r') ↔ r'.type = r.type ∧
      mapFields (g.enters true) (Value.relabel c g) (r.schema c).fields r.values =
        mapFields (g.enters true) (Value.relabel c g) (r.schema c).fields r'.values ∧
      g.info node = g.info node' ∧ g.annotations r.annotations = g.annotations r'.annotations := by
  have hnode : r.isNode = true := by rw [isNode, hn, Option.isSome_some]
  have hnode' : r'.isNode = true := by rw [isNode, hn', Option.isSome_some]
  rw [Value.SameUpTo, Value.relabel_record, Value.relabel_record, Value.record.injEq, relabel_eq,
    relabel_eq, Record.mk.injEq, hnode, hnode', hn, hn', if_pos rfl, if_pos rfl, Option.map_some,
    Option.map_some, Option.some.injEq, schema, schema]
  constructor
  · rintro ⟨ht, hv, hi⟩
    rw [← ht] at hv
    exact ⟨ht.symm, hv, hi⟩
  · rintro ⟨ht, hv, hi⟩
    rw [ht]
    exact ⟨rfl, hv, hi⟩

/-- Construction would let pass all that differs from a constructed node in what the checks ignore
only, also once more types are there. -/
theorem Constructed.of_sameUpTo (hr : r.Constructed h c) (hx : c.Extends c') (hc : c.Closed)
    (hp : Value.Proper c (.record r)) (hi : (r.schema c).Ignores h g) (hn : r.isNode = true)
    (hs : Value.SameUpTo c' g (.record r) (.record r'))
    (hb : Value.SameUpTo c' g (.record r.bare) (.record r'.bare))
    (hsymbols : r'.symbols?.map (·.names) = r.symbols?.map (·.names)) : r'.Constructed h c' := by
  have hschema : r'.schema c' = r.schema c :=
    (schema_of_sameUpTo hs).trans (schema_of_extends hx hp)
  have hnames : (r'.declarations c').map (·.1) = (r.declarations c).map (·.1) := by
    rw [map_fst_declarations_of_sameUpTo hs, declarations_of_extends hx hp]
  obtain ⟨node, hnode⟩ := Option.isSome_iff_exists.mp hn
  obtain ⟨node', hnode'⟩ := Option.isSome_iff_exists.mp ((isNode_of_sameUpTo hs).trans hn)
  have hvalues := forall₂_of_mapFields_eq ((sameUpTo_iff hnode hnode').mp hs).2.1
  constructor
  · rw [hschema]
    exact hr.isNode
  · rw [hschema]
    exact hr.instantiable
  · -- Validation looks at nothing that is relabeled, and the checks are assumed to do the same.
    rw [hschema]
    refine forall₂_trans_of_mem (fun f hf v hv v' hfield hsame => ?_) hr.fields hvalues
    have hproper := hp.of_mem_parts hv
    refine ⟨?_, fun hook hm => ?_⟩
    · exact (Value.SameUpTo.validate_iff hsame f.type).mp
        (Ty.validate_of_extends hx hc hproper hfield.1)
    · obtain ⟨s, hcheck⟩ := hfield.2 hook hm
      exact ⟨s, hi.checks f hf hook hm c c' v v' s s hx hproper hsame hcheck⟩
  · rw [hschema]
    intro hook hm
    obtain ⟨s, hcheck⟩ := hr.rootChecks hook hm
    exact ⟨s, hi.rootChecks hook hm c c' r.bare r'.bare s s hx (proper_bare hp) hb hcheck⟩
  · rw [hschema, hnames]
    exact hr.distinct
  · rw [hschema, hnames, hsymbols]
    exact hr.symbols

theorem Constructed.of_extends (hr : r.Constructed h c) (hx : c.Extends c') (hc : c.Closed)
    (hp : Value.Proper c (.record r)) (hi : (r.schema c).Ignores h g) (hn : r.isNode = true) :
    r.Constructed h c' :=
  hr.of_sameUpTo hx hc hp hi hn rfl rfl rfl

/-- A constructed node stays one when nodes at and below it are annotated. -/
theorem Constructed.of_annotated (hr : r.Constructed h c) (hc : c.Closed)
    (hp : Value.Proper c (.record r)) (hi : (r.schema c).Ignores h .forgetAnnotations)
    (hn : r.isNode = true) (ha : Value.SameUpTo c .forgetAnnotations (.record r) (.record r')) :
    r'.Constructed h c := by
  obtain ⟨node, hnode⟩ := Option.isSome_iff_exists.mp hn
  obtain ⟨node', hnode'⟩ := Option.isSome_iff_exists.mp ((isNode_of_sameUpTo ha).trans hn)
  obtain ⟨htype, hvalues, hinfo, -⟩ := (sameUpTo_iff hnode hnode').mp ha
  obtain rfl : node = node' := hinfo
  refine hr.of_sameUpTo (.refl c) hc hp hi hn ha ?_ ?_
  · exact (sameUpTo_iff (node_bare hnode) (node_bare hnode')).mpr ⟨htype, hvalues, rfl, rfl⟩
  · rw [symbols?, symbols?, hnode, hnode']

/-- The dynamic annotations of a node do not matter for it. -/
theorem Constructed.withAnnotations (hr : r.Constructed h c)
    (annotations : List (String × Value)) : { r with annotations }.Constructed h c := by
  have hd : { r with annotations }.declarations c = r.declarations c := by
    rw [declarations_eq, declarations_eq]
    rfl
  exact ⟨hr.isNode, hr.instantiable, hr.fields, hr.rootChecks, hd ▸ hr.distinct, hd ▸ hr.symbols⟩

end Record

/-! ### Constructed nodes again -/

section

variable {h : Hooks} {c : Catalog} {r : Record}

/-- The values of a constructed node that are the same besides numbers are accepted again. -/
theorem accepts_of_constructed {values : List Value} (hp : Value.Proper c (.record r))
    (hr : (r.schema c).Rebuildable h) (hc : r.Constructed h c)
    (hv : List.Forall₂ (Value.SameUpTo c .forgetNumbers) r.values values) :
    List.Forall₂ (Field.Accepts h c) (r.schema c).fields values := by
  refine forall₂_trans_of_mem (fun f hf v hm v' hfield hsame => ?_) hc.fields hv
  refine ⟨hr.converter f hf, (hsame.validate_iff f.type).mp hfield.1, fun hook hook_mem s => ?_⟩
  obtain ⟨s', hcheck⟩ := hfield.2 hook hook_mem
  exact hr.ignores.checks f hf hook hook_mem c c v v' s' s (.refl c) (hp.of_mem_parts hm) hsame
    hcheck

/-- Symbols are collected again from what declares the same, and annotations are carried over. -/
theorem sameUpTo_withSymbols {d : Record} {id : NodeId} (hc : r.Constructed h c)
    (hn : r.isNode = true) (hd : d.node = some ⟨id, none⟩)
    (hs : Value.SameUpTo c .forgetNumbers (.record r.bare) (.record d)) :
    Value.SameUpTo c .forgetNumbers (.record r)
      (.record { d.withSymbols c with annotations := r.annotations }) := by
  obtain ⟨node, hnode⟩ := Option.isSome_iff_exists.mp hn
  have hisNode : (d.withSymbols c).isNode = true := by
    rw [Record.isNode_withSymbols, Record.isNode, hd]
    rfl
  obtain ⟨node', hnode'⟩ := Option.isSome_iff_exists.mp hisNode
  have hannotated : ({ d.withSymbols c with annotations := r.annotations } : Record).node =
    some node' := hnode'
  obtain ⟨htype, hvalues, -⟩ := (Record.sameUpTo_iff (Record.node_bare hnode) hd).mp hs
  refine (Record.sameUpTo_iff hnode hannotated).mpr ⟨?_, ?_, ?_, rfl⟩
  · exact (Record.type_withSymbols c d).trans htype
  · rw [Record.values_withSymbols]
    exact hvalues
  · refine (NodeInfo.unnumbered_eq_iff node node').mpr ?_
    have hnames := Record.map_names_withSymbols (c := c) hd
    have hsymbols := hc.symbols
    rw [Record.symbols?, hnode', Record.schema_of_sameUpTo hs,
      Record.map_fst_declarations_of_sameUpTo hs, Record.map_fst_declarations_bare] at hnames
    rw [Record.symbols?, hnode] at hsymbols
    exact hsymbols.trans hnames.symm

end

end TypedTree
