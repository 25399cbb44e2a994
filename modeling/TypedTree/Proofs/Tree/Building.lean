import TypedTree.Proofs.Construction.Repetition
import TypedTree.Proofs.Value.Origin

/-! # Values that are built from constructed nodes -/

namespace TypedTree

open Construct

/-! ### The types of the nodes of a tree -/

/-- The types of all nodes of a tree satisfy a condition. -/
def Value.NodeTypes (c : Catalog) (P : Schema → Prop) (v : Value) : Prop :=
  ∀ r, .record r ∈ v.items c .preOrder → r.isNode = true → P (r.schema c)

section

variable {c c' : Catalog} {P : Schema → Prop} {g : Relabeling} {v v' x : Value} {r : Record}

theorem Value.mem_items_self (c : Catalog) (v : Value) : v ∈ v.items c .preOrder := by
  rw [items_preOrder_eq]
  exact List.mem_cons_self

namespace Value.NodeTypes

theorem root (h : NodeTypes c P (.record r)) (hn : r.isNode = true) : P (r.schema c) :=
  h r (mem_items_self c _) hn

theorem child (h : NodeTypes c P v) (hx : x ∈ (v.children c).map (·.2)) : NodeTypes c P x := by
  intro r hr hn
  refine h r ?_ hn
  rw [items_preOrder_eq]
  exact List.mem_cons_of_mem v (List.mem_flatMap.mpr ⟨x, hx, hr⟩)

theorem tuple {items : List Value} (h : NodeTypes c P (.tuple items)) :
    ∀ x ∈ items, NodeTypes c P x := by
  intro x hx
  refine h.child ?_
  rwa [children, map_snd_indexed]

theorem list {items : List Value} (h : NodeTypes c P (.list items)) :
    ∀ x ∈ items, NodeTypes c P x := by
  intro x hx
  refine h.child ?_
  rwa [children, map_snd_indexed]

theorem set {items : List Value} (h : NodeTypes c P (.set items)) :
    ∀ x ∈ items, NodeTypes c P x := by
  intro x hx
  refine h.child ?_
  rw [children, List.map_map]
  exact List.mem_map.mpr ⟨x, hx, rfl⟩

theorem map {entries : List (Value × Value)} (h : NodeTypes c P (.map entries)) :
    ∀ e ∈ entries, NodeTypes c P e.2 := by
  intro e he
  refine h.child ?_
  rw [children, List.map_map]
  exact List.mem_map.mpr ⟨e, he, rfl⟩

theorem node (h : NodeTypes c P (.record r)) (hn : r.isNode = true) :
    ∀ x ∈ r.childValues c, NodeTypes c P x := by
  intro x hx
  refine h.child ?_
  rwa [children_record, if_pos hn]

theorem of_sameUpTo (h : NodeTypes c P v) (hs : v.SameUpTo c g v') : NodeTypes c P v' := by
  intro r hr hn
  have hitems : (record r).relabel c g ∈ (v.items c .preOrder).map (relabel c g) := by
    rw [← items_relabel, hs, items_relabel]
    exact List.mem_map_of_mem hr
  obtain ⟨x, hx, hrelabel⟩ := List.mem_map.mp hitems
  rw [relabel_record] at hrelabel
  obtain ⟨s, rfl, hsr⟩ := eq_record_of_relabel hrelabel
  have hnode : s.isNode = true := by rw [← Record.isNode_relabel (c := c) (g := g), ← hsr,
    Record.isNode_relabel, hn]
  have hschema : s.schema c = r.schema c := by rw [← Record.schema_relabel (g := g), ← hsr,
    Record.schema_relabel]
  exact hschema ▸ h s hx hnode

theorem of_extends (h : NodeTypes c P v) (hx : c.Extends c') (hp : v.Proper c) :
    NodeTypes c' P v := by
  intro r hr hn
  rw [items_of_extends hx hp] at hr
  rw [Record.schema_of_extends hx (hp.of_mem_items hr)]
  exact h r hr hn

/-- The condition may as well hold of all types that there are. -/
theorem of_all (h : ∀ t < c.schemas.length, P (c.schema t)) (hp : v.Proper c) :
    NodeTypes c P v :=
  fun r hr _ => h r.type (hp.of_mem_items hr).lt_length

end Value.NodeTypes

end

/-! ### Values that are built -/

namespace Value

/-- A value is put together from built ones by a container constructor or by construction, where all
that the fields take is built. A node may be annotated once it is constructed. If it is part of a
tree by then, in whatever field, the checks of that tree must not look at dynamic annotations, for
they do not run then. More types may be added at any time. -/
inductive Built (h : Hooks) : Catalog → Value → Prop where
  | atom {c : Catalog} {v : Value} (hv : v.isAtom = true) : Built h c v
  | tuple {c : Catalog} {items : List Value} (hi : ∀ x ∈ items, Built h c x) :
      Built h c (.tuple items)
  | list {c : Catalog} {items : List Value} (hi : ∀ x ∈ items, Built h c x) :
      Built h c (.list items)
  | set {c : Catalog} {elements items : List Value} (he : ∀ x ∈ elements, Built h c x)
      (hm : ofElements c elements = .ok (.set items)) : Built h c (.set items)
  | map {c : Catalog} {given entries : List (Value × Value)} (hk : ∀ e ∈ given, Built h c e.1)
      (hv : ∀ e ∈ given, Built h c e.2) (hm : ofEntries c given = .ok (.map entries)) :
      Built h c (.map entries)
  | construct {c : Catalog} {t : TypeId} {arguments : List (String × Value)} {s : State}
      {r : Record} (ht : t < c.schemas.length)
      (hc : ((construct h c t arguments).exec s).1 = .ok r) (hv : ∀ v ∈ r.values, Built h c v) :
      Built h c (.record r)
  | annotate {c : Catalog} {r r' : Record} {name : String} {v : Value} (hr : Built h c (.record r))
      (hd : (r.schema c).slot? name = Option.none) (ha : r.annotate c name v = .ok r') :
      Built h c (.record r')
  | annotateBelow {c : Catalog} {v v' : Value} (hv : Built h c v)
      (ha : v.SameUpTo c .forgetAnnotations v')
      (hi : v.NodeTypes c (Schema.Ignores h .forgetAnnotations)) : Built h c v'
  | later {c c' : Catalog} {v : Value} (hx : c.Extends c') (hv : Built h c v) : Built h c' v

/-- A value that can be translated into the same one: its nodes pass construction again. -/
inductive Reproducible (h : Hooks) (c : Catalog) : Value → Prop where
  | atom {v : Value} (hv : v.isAtom = true) : Reproducible h c v
  | tuple {items : List Value} (hi : ∀ x ∈ items, Reproducible h c x) :
      Reproducible h c (.tuple items)
  | list {items : List Value} (hi : ∀ x ∈ items, Reproducible h c x) :
      Reproducible h c (.list items)
  | set {items : List Value} (hh : ∀ x ∈ items, x.isHashable c = true)
      (hi : ∀ x ∈ items, Reproducible h c x) : Reproducible h c (.set items)
  | map {entries : List (Value × Value)} (hv : ∀ e ∈ entries, Reproducible h c e.2) :
      Reproducible h c (.map entries)
  | plain {r : Record} (hn : r.isNode = false) : Reproducible h c (.record r)
  | node {r : Record} (hn : r.isNode = true) (hr : (r.schema c).Rebuildable h)
      (hc : r.Constructed h c) (hv : ∀ v ∈ r.childValues c, Reproducible h c v) :
      Reproducible h c (.record r)

variable {h : Hooks} {c c' : Catalog} {v v' : Value} {r r' : Record}

/-- An annotation that no field declares is set on nodes only and changes nothing else. -/
theorem eq_of_annotate {name : String} (hd : (r.schema c).slot? name = Option.none)
    (ha : r.annotate c name v = .ok r') :
    r.isNode = true ∧ ∃ annotations, r' = { r with annotations } := by
  rw [Record.annotate, hd] at ha
  split at ha
  · cases ha
  · simp only at ha
    split at ha
    · exact ⟨‹_›, _, (Except.ok.inj ha).symm⟩
    · cases ha

theorem Built.proper (hb : Built h c v) : Proper c v := by
  induction hb with
  | atom hv => exact .atom hv
  | tuple _ ih => exact .tuple ih
  | list _ ih => exact .list ih
  | set _ hm ih =>
    exact .set (fun x hx => ih x (hashable_of_mem_ofElements hm x hx).1) (distinct_of_ofElements hm)
  | map _ _ hm ihk ihv =>
    refine .map (fun e he => ?_) (fun e he => ?_) (distinct_of_ofEntries hm)
    · obtain ⟨d, hd, hde⟩ := (exists_of_mem_ofEntries hm he).1
      exact hde ▸ ihk d hd
    · obtain ⟨d, hd, hde⟩ := (exists_of_mem_ofEntries hm he).2
      exact hde ▸ ihv d hd
  | construct ht hc _ ih =>
    obtain ⟨htype, hvalid⟩ := valid_of_construct hc
    subst htype
    exact .record ht hvalid.length_eq.symm ih
  | annotate _ hd ha ih =>
    obtain ⟨-, annotations, rfl⟩ := eq_of_annotate hd ha
    exact .record ih.lt_length ih.length_values fun v hv => ih.of_mem_parts hv
  | annotateBelow _ ha _ ih => exact ha.proper ih
  | later hx _ ih => exact ih.of_extends hx

theorem eq_or_isAtom_of_convertValue {t : TypeId} {f : Field} {raw : Value} {s : State}
    (hf : f.converter = Option.none) (he : ((convertValue h c t f raw).exec s).1 = .ok v) :
    v = raw ∨ v.isAtom = true := by
  rw [convertValue, hf] at he
  simp only at he
  split at he
  · split at he
    · obtain rfl := Except.ok.inj he
      exact Ty.eq_or_isAtom_of_coerce ‹_›
    · cases he
  · exact .inl (Except.ok.inj he).symm

/-- Where fields are converted by coercion at most, an instance is built if its arguments and the
defaults of its type are. -/
theorem built_of_arguments {t : TypeId} {arguments : List (String × Value)} {s : State}
    (ht : t < c.schemas.length) (hc : ((construct h c t arguments).exec s).1 = .ok r)
    (hn : ∀ f ∈ (c.schema t).fields, f.converter = Option.none)
    (ha : ∀ argument ∈ arguments, Built h c argument.2)
    (hd : ∀ f ∈ (c.schema t).fields, ∀ s v, ((rawValue h c t [] f).exec s).1 = .ok v →
      Built h c v) : Built h c (.record r) := by
  obtain ⟨hfit, hfills⟩ := fills_of_construct hc
  refine .construct ht hc fun v hv => ?_
  obtain ⟨i, hi, rfl⟩ := List.mem_iff_getElem.mp hv
  have hi' : i < (c.schema t).fields.length := hfills.length_eq ▸ hi
  have hf : (c.schema t).fields[i] ∈ (c.schema t).fields := List.getElem_mem hi'
  have hfill : Fills h c t arguments (c.schema t).fields[i] r.values[i] := hfills.get hi' hi
  obtain @⟨raw, _, s₁, s₂, hraw, hconvert, -, -⟩ := hfill
  have hbuilt : Built h c raw := by
    by_cases hm : (c.schema t).fields[i].name ∈ arguments.map (·.1)
    · obtain ⟨⟨name, given⟩, hgiven, hname⟩ := List.mem_map.mp hm
      obtain rfl : name = _ := hname
      rw [rawValue_of_mem hfit.nodup hgiven] at hraw
      obtain rfl := Except.ok.inj hraw
      exact ha _ hgiven
    · rw [rawValue_of_not_mem hm] at hraw
      exact hd _ hf s₁ raw hraw
  rcases eq_or_isAtom_of_convertValue (hn _ hf) hconvert with he | hatom
  · exact he ▸ hbuilt
  · exact .atom hatom

theorem exists_sameUpTo_of_mem {g : Relabeling} {xs ys : List Value}
    (he : xs.map (relabel c g) = ys.map (relabel c g)) {y : Value} (hy : y ∈ ys) :
    ∃ x ∈ xs, x.SameUpTo c g y := by
  refine List.mem_map.mp ?_
  rw [he]
  exact List.mem_map_of_mem hy

theorem sameUpTo_withAnnotations (hn : r.isNode = true) (annotations : List (String × Value)) :
    SameUpTo c .forgetAnnotations (.record r) (.record { r with annotations }) := by
  obtain ⟨node, hnode⟩ := Option.isSome_iff_exists.mp hn
  have hnode' : ({ r with annotations } : Record).node = some node := hnode
  exact (Record.sameUpTo_iff hnode hnode').mpr ⟨rfl, rfl, rfl, rfl⟩

/-- Nodes may be annotated where no check looks at annotations. -/
theorem Reproducible.of_sameUpTo (hr : Reproducible h c v) (hc : c.Closed) (hp : Proper c v)
    (ha : v.SameUpTo c .forgetAnnotations v')
    (hi : v.NodeTypes c (Schema.Ignores h .forgetAnnotations)) : Reproducible h c v' := by
  induction hr generalizing v' with
  | atom hv =>
    rw [SameUpTo, relabel_of_isAtom hv] at ha
    exact eq_of_relabel_isAtom ha.symm hv ▸ .atom hv
  | tuple _ ih =>
    rw [SameUpTo, relabel_tuple] at ha
    obtain ⟨ys, rfl, he⟩ := eq_tuple_of_relabel ha.symm
    refine .tuple fun y hy => ?_
    obtain ⟨x, hx, hxy⟩ := exists_sameUpTo_of_mem he hy
    exact ih x hx (hp.of_mem_parts hx) hxy (hi.tuple x hx)
  | list _ ih =>
    rw [SameUpTo, relabel_list] at ha
    obtain ⟨ys, rfl, he⟩ := eq_list_of_relabel ha.symm
    refine .list fun y hy => ?_
    obtain ⟨x, hx, hxy⟩ := exists_sameUpTo_of_mem he hy
    exact ih x hx (hp.of_mem_parts hx) hxy (hi.list x hx)
  | set hh _ ih =>
    rw [SameUpTo, relabel_set] at ha
    obtain ⟨ys, rfl, he⟩ := eq_set_of_relabel ha.symm
    refine .set (fun y hy => ?_) fun y hy => ?_
    · obtain ⟨x, hx, hxy⟩ := exists_sameUpTo_of_mem he hy
      exact hxy.isHashable_iff.mp (hh x hx)
    · obtain ⟨x, hx, hxy⟩ := exists_sameUpTo_of_mem he hy
      exact ih x hx (hp.of_mem_parts hx) hxy (hi.set x hx)
  | @map entries _ ih =>
    have hparts := forall_parts_map_iff.mp fun x hx => hp.of_mem_parts hx
    rw [SameUpTo, relabel_map] at ha
    obtain ⟨es, rfl, he⟩ := eq_map_of_relabel ha.symm
    refine .map fun e hm => ?_
    have hmem := List.mem_map_of_mem (f := fun e => (e.1, e.2.relabel c .forgetAnnotations)) hm
    rw [← he] at hmem
    obtain ⟨d, hd, hde⟩ := List.mem_map.mp hmem
    exact ih d hd (hparts d hd).2 (Prod.mk.inj hde).2 (hi.map d hd)
  | plain hn =>
    rw [SameUpTo, relabel_record] at ha
    obtain ⟨s, rfl, -⟩ := eq_record_of_relabel ha.symm
    exact .plain ((Record.isNode_of_sameUpTo ha).trans hn)
  | @node r hn hrebuild hconstructed _ ih =>
    obtain ⟨s, rfl, -⟩ := eq_record_of_relabel (ha.symm.trans (relabel_record r))
    refine .node ((Record.isNode_of_sameUpTo ha).trans hn) ?_ ?_ fun y hy => ?_
    · rwa [Record.schema_of_sameUpTo ha]
    · exact hconstructed.of_annotated hc hp (hi.root hn) hn ha
    · obtain ⟨x, hx, hxy⟩ := exists_sameUpTo_of_mem (Record.childValues_of_sameUpTo ha hn) hy
      exact ih x hx (hp.of_mem_parts (r.mem_values_of_mem_childValues hx)) hxy (hi.node hn x hx)

/-- What is built can be reproduced, also once more types are there. -/
theorem Built.reproducible (hb : Built h c v) (hx : c.Extends c')
    (hc : ∀ d : Catalog, d.Extends c' → d.Closed) (hn : v.NodeTypes c' (Schema.Rebuildable h)) :
    Reproducible h c' v := by
  -- The types at the end stay fixed, while each rule holds with the types of its own time.
  induction hb with
  | atom hv => exact .atom hv
  | tuple _ ih => exact .tuple fun x hm => ih x hm hx (hn.tuple x hm)
  | list _ ih => exact .list fun x hm => ih x hm hx (hn.list x hm)
  | set he hm ih =>
    have helement := hashable_of_mem_ofElements hm
    refine .set (fun x hm => ?_) fun x hm => ih x (helement x hm).1 hx (hn.set x hm)
    rw [isHashable_of_extends hx (he x (helement x hm).1).proper]
    exact (helement x hm).2
  | map _ _ hm _ ih =>
    refine .map fun e he => ?_
    obtain ⟨d, hd, hde⟩ := (exists_of_mem_ofEntries hm he).2
    rw [← hde]
    exact ih d hd hx (hde ▸ hn.map e he)
  | @construct c t _ _ r ht hr hv ih =>
    have hp : Proper c (.record r) := Built.proper (.construct ht hr hv)
    cases hnode : r.isNode with
    | false => exact .plain hnode
    | true =>
      have hrebuild := hn.root hnode
      refine .node hnode hrebuild ?_ fun x hm => ?_
      · rw [Record.schema_of_extends hx hp] at hrebuild
        exact (Record.Constructed.of_construct hr hnode).of_extends hx (hc c hx) hp
          hrebuild.ignores hnode
      · exact ih x (r.mem_values_of_mem_childValues hm) hx (hn.node hnode x hm)
  | annotate _ hd ha ih =>
    obtain ⟨hnode, annotations, rfl⟩ := eq_of_annotate hd ha
    have hsame := sameUpTo_withAnnotations (c := c') hnode annotations
    cases ih hx (hn.of_sameUpTo hsame.symm) with
    | atom hv => cases hv
    | plain hplain => exact .plain hplain
    | node _ hrebuild hconstructed hv =>
      exact .node hnode hrebuild (hconstructed.withAnnotations annotations) hv
  | @annotateBelow c v v' hv ha hi ih =>
    have hp := hv.proper
    have ha' := ha.of_extends hx hp
    exact (ih hx (hn.of_sameUpTo ha'.symm)).of_sameUpTo (hc c' (.refl c')) (hp.of_extends hx) ha'
      (hi.of_extends hx hp)
  | later hx' _ ih => exact ih (hx'.trans hx) hn

end Value

end TypedTree
