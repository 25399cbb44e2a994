import TypedTree.Proofs.Tree.RelabeledTrees

/-! # Trees are read in the same way when more types are added -/

namespace TypedTree

variable {c c' : Catalog} {r : Record} {v : Value}

namespace Record

variable (hx : c.Extends c') (hp : Value.Proper c (.record r))

include hx hp

theorem schema_of_extends : r.schema c' = r.schema c :=
  hx.schema_eq hp.lt_length

theorem childValues_of_extends : r.childValues c' = r.childValues c := by
  rw [childValues, schema_of_extends hx hp, childValues]

theorem symbolNames_of_extends : r.symbolNames c' = r.symbolNames c := by
  rw [symbolNames, schema_of_extends hx hp, symbolNames]

theorem declarationsWith_of_extends {below below' : Value → List (String × NodeId)}
    (h : ∀ v ∈ r.childValues c, below' v = below v) :
    r.declarationsWith c' below' = r.declarationsWith c below := by
  rw [declarationsWith, childValues_of_extends hx hp, symbolNames_of_extends hx hp,
    List.flatMap_congr h, declarationsWith]

end Record

namespace Value

theorem mem_parts_of_mem_children {x : Value} (hx : x ∈ (v.children c).map (·.2)) :
    x ∈ v.parts := by
  cases v with
  | tuple items | list items => rwa [children, map_snd_indexed] at hx
  | set items => simpa [children, parts, Function.comp_def] using hx
  | map entries =>
    simp only [children, List.map_map, List.mem_map, Function.comp_apply] at hx
    obtain ⟨e, he, rfl⟩ := hx
    exact List.mem_flatMap.mpr ⟨e, he, by simp⟩
  | record r =>
    rw [children_record] at hx
    by_cases hn : r.isNode = true
    · rw [if_pos hn] at hx
      exact r.mem_values_of_mem_childValues hx
    · rw [if_neg hn] at hx
      cases hx
  | _ => cases hx

/-- The items of a tree are put together properly if the tree is. -/
theorem Proper.of_mem_items {x : Value} (hp : Proper c v) (hx : x ∈ v.items c .preOrder) :
    Proper c x := by
  generalize (Option.none : Option TreeKey) = key
  induction key, v using Value.preOrder.induct c with
  | case1 key v ih =>
    rw [items_preOrder_eq, List.flatMap_map] at hx
    rcases List.mem_cons.mp hx with rfl | hx
    · exact hp
    · obtain ⟨child, hm, hx⟩ := List.mem_flatMap.mp hx
      have hpart := mem_parts_of_mem_children (List.mem_map_of_mem hm)
      exact ih child.1 child.2 hm (hp.of_mem_parts hpart) hx

variable (hx : c.Extends c')

include hx

theorem map_snd_children_of_extends (hp : Proper c v) :
    (v.children c').map (·.2) = (v.children c).map (·.2) := by
  cases v with
  | record r => rw [children_record, children_record, Record.childValues_of_extends hx hp]
  | _ => rfl

theorem items_of_extends (hp : Proper c v) : v.items c' .preOrder = v.items c .preOrder := by
  generalize (Option.none : Option TreeKey) = key
  induction key, v using Value.preOrder.induct c with
  | case1 key v ih =>
    rw [items_preOrder_eq, items_preOrder_eq c, map_snd_children_of_extends hx hp,
      List.flatMap_map, List.flatMap_map]
    refine congrArg _ (List.flatMap_congr fun child hm => ih child.1 child.2 hm ?_)
    exact hp.of_mem_parts (mem_parts_of_mem_children (List.mem_map_of_mem hm))

theorem declarations_of_extends (hp : Proper c v) : v.declarations c' = v.declarations c := by
  have hlists := listsDeclarations c
  have hlists' := listsDeclarations c'
  induction v using Value.induction with
  | atom v hv => rw [hlists'.atom v hv, hlists.atom v hv]
  | tuple items ih =>
    rw [hlists'.tuple, hlists.tuple]
    exact List.flatMap_congr fun x hm => ih x hm (hp.of_mem_parts hm)
  | list items ih =>
    rw [hlists'.list, hlists.list]
    exact List.flatMap_congr fun x hm => ih x hm (hp.of_mem_parts hm)
  | set items ih =>
    rw [hlists'.set, hlists.set]
    exact List.flatMap_congr fun x hm => ih x hm (hp.of_mem_parts hm)
  | map entries ih =>
    have hparts := forall_parts_map_iff.mp fun x hm => hp.of_mem_parts hm
    rw [hlists'.map, hlists.map]
    exact List.flatMap_congr fun e he => (ih e he).2 (hparts e he).2
  | record r ih =>
    have hschema := Record.schema_of_extends hx hp
    cases hs : (r.schema c).flags.scope with
    | true =>
      rw [hlists'.scope r (hschema ▸ hs), hlists.scope r hs]
      exact Record.declarationsWith_of_extends hx hp fun _ _ => rfl
    | false =>
      rw [hlists'.node r (hschema ▸ hs), hlists.node r hs]
      refine Record.declarationsWith_of_extends hx hp fun x hm => ?_
      have hvalue := r.mem_values_of_mem_childValues hm
      exact ih x hvalue (hp.of_mem_parts hvalue)

theorem isHashable_of_extends (hp : Proper c v) : v.isHashable c' = v.isHashable c := by
  induction v using Value.induction with
  | atom v hv => cases v <;> first | rfl | cases hv
  | tuple items ih =>
    rw [Bool.eq_iff_iff, isHashable, isHashable, allHashable_iff, allHashable_iff]
    exact forall₂_congr fun x hm => by rw [ih x hm (hp.of_mem_parts hm)]
  | list | set | map => rfl
  | record r => rw [isHashable, isHashable, Record.schema_of_extends hx hp]

theorem relabel_of_extends (g : Relabeling) (hp : Proper c v) : v.relabel c' g = v.relabel c g := by
  induction v using Value.induction with
  | atom v hv => rw [relabel_of_isAtom hv, relabel_of_isAtom hv]
  | tuple items ih =>
    rw [relabel_tuple, relabel_tuple]
    exact congrArg tuple (List.map_congr_left fun x hm => ih x hm (hp.of_mem_parts hm))
  | list items ih =>
    rw [relabel_list, relabel_list]
    exact congrArg list (List.map_congr_left fun x hm => ih x hm (hp.of_mem_parts hm))
  | set items ih =>
    rw [relabel_set, relabel_set]
    exact congrArg set (List.map_congr_left fun x hm => ih x hm (hp.of_mem_parts hm))
  | map entries ih =>
    have hparts := forall_parts_map_iff.mp fun x hm => hp.of_mem_parts hm
    rw [relabel_map, relabel_map]
    exact congrArg map (List.map_congr_left fun e he => by rw [(ih e he).2 (hparts e he).2])
  | record r ih =>
    rw [relabel_record, relabel_record, Record.relabel_eq, Record.relabel_eq,
      Record.schema_of_extends hx hp, mapFields_congr fun x hm => ih x hm (hp.of_mem_parts hm)]

theorem SameUpTo.of_extends {g : Relabeling} {v' : Value} (h : SameUpTo c g v v')
    (hp : Proper c v) : SameUpTo c' g v v' := by
  rw [SameUpTo, relabel_of_extends hx g hp, relabel_of_extends hx g (h.proper hp)]
  exact h

end Value

theorem Record.declarations_of_extends (hx : c.Extends c') (hp : Value.Proper c (.record r)) :
    r.declarations c' = r.declarations c := by
  rw [declarations_eq, declarations_eq]
  refine declarationsWith_of_extends hx hp fun x hm => Value.declarations_of_extends hx ?_
  exact hp.of_mem_parts (r.mem_values_of_mem_childValues hm)

end TypedTree
