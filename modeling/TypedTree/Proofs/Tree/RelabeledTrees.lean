import TypedTree.Proofs.Tree.DepthFirst
import TypedTree.Proofs.Tree.Symbols
import TypedTree.Proofs.Value.Invariance

/-! # Walks over relabeled trees and the symbols in them -/

namespace TypedTree

/-! ### What nodes can do without -/

/-- A node that has no number yet, with a table that gives no numbers. -/
def NodeInfo.unnumbered (node : NodeInfo) : NodeInfo where
  id := 0
  symbols := node.symbols.map fun table => ⟨table.entries.map fun e => (e.1, 0)⟩

namespace Relabeling

/-- Forgets the numbers of the nodes of a tree and those in their symbol tables. -/
def forgetNumbers : Relabeling where
  info := NodeInfo.unnumbered
  annotations := id
  enters isNode f := isNode && f.kind == .child
  children f hk := by simp [hk]

/-- Forgets dynamic annotations, also those of nodes in fields that are no children. -/
def forgetAnnotations : Relabeling where
  info := id
  annotations _ := []
  enters _ _ := true
  children _ _ := rfl

theorem enters_forgetNumbers_iff (f : Field) :
    forgetNumbers.enters true f = true ↔ f.kind = .child := by
  simp [forgetNumbers]

end Relabeling

theorem SymbolTable.map_unnumbered_eq_iff (ds es : List (String × NodeId)) :
    ds.map (fun e => (e.1, (0 : NodeId))) = es.map (fun e => (e.1, 0)) ↔
      ds.map (·.1) = es.map (·.1) := by
  induction ds generalizing es with
  | nil => cases es <;> simp
  | cons d ds ih => cases es <;> simp [ih]

/-- Without numbers, only the names in the table are left. -/
theorem NodeInfo.unnumbered_eq_iff (node node' : NodeInfo) :
    node.unnumbered = node'.unnumbered ↔
      node.symbols.map (·.names) = node'.symbols.map (·.names) := by
  rw [unnumbered, unnumbered, NodeInfo.mk.injEq]
  cases node.symbols with
  | none => cases node'.symbols <;> simp
  | some table =>
    cases node'.symbols with
    | none => simp
    | some table' => simp [SymbolTable.map_unnumbered_eq_iff, SymbolTable.names]

variable {c : Catalog} {g : Relabeling}

/-! ### The fields of a relabeled node -/

namespace Record

variable {r : Record}

/-- The places of the field table with the values of a relabeled record. -/
theorem zip_values_relabel (r : Record) :
    ((r.relabel c g).schema c).fields.zip (r.relabel c g).values =
      ((r.schema c).fields.zip r.values).map fun p =>
        (p.1, if g.enters r.isNode p.1 then p.2.relabel c g else p.2) := by
  rw [schema_relabel, values_relabel, zip_mapFields]

theorem symbolNames_relabel (r : Record) :
    (r.relabel c g).symbolNames c = r.symbolNames c := by
  rw [symbolNames, zip_values_relabel, List.filterMap_map, symbolNames]
  refine List.filterMap_congr fun p _ => ?_
  by_cases hp : g.enters r.isNode p.1 = true
  · simp [hp]
  · simp [hp]

theorem childValues_relabel (hn : r.isNode = true) :
    (r.relabel c g).childValues c = (r.childValues c).map (Value.relabel c g) := by
  rw [childValues, zip_values_relabel, List.filterMap_map, childValues, List.map_filterMap]
  refine List.filterMap_congr fun p _ => ?_
  by_cases hp : p.1.kind = .child
  · simp [hn, hp, g.children p.1 hp]
  · simp [hp]

/-- Fields that are not entered stay as they are. -/
theorem ofKind_relabel {kind : FieldKind}
    (hk : ∀ f : Field, f.kind = kind → g.enters r.isNode f = false) :
    (r.relabel c g).ofKind c kind = r.ofKind c kind := by
  rw [ofKind, Schema.select, zip_values_relabel, List.filterMap_map, ofKind, Schema.select]
  refine List.filterMap_congr fun p _ => ?_
  by_cases hp : p.1.kind = kind
  · simp [hp, hk p.1 hp]
  · simp [hp]

end Record

/-! ### Symbols -/

/-- The names that a record and what is below it declare. -/
theorem Record.map_fst_declarationsWith (c : Catalog) (below : Value → List (String × NodeId))
    (r : Record) : (r.declarationsWith c below).map (·.1) =
      if r.isNode then r.symbolNames c ++ (r.childValues c).flatMap fun v => (below v).map (·.1)
      else [] := by
  rw [declarationsWith, isNode]
  cases r.node with
  | none => rfl
  | some node => simp [List.map_flatMap, Function.comp_def]

theorem Record.map_fst_declarationsWith_relabel {below : Value → List (String × NodeId)}
    (r : Record)
    (h : ∀ v ∈ r.values, (below (v.relabel c g)).map (·.1) = (below v).map (·.1)) :
    ((r.relabel c g).declarationsWith c below).map (·.1) =
      (r.declarationsWith c below).map (·.1) := by
  rw [map_fst_declarationsWith, map_fst_declarationsWith, isNode_relabel, symbolNames_relabel]
  by_cases hn : r.isNode = true
  · rw [if_pos hn, if_pos hn, childValues_relabel hn, List.flatMap_map]
    exact congrArg _ (List.flatMap_congr fun v hv => h v (r.mem_values_of_mem_childValues hv))
  · rw [if_neg hn, if_neg hn]

/-- The same names are declared in the same order. -/
theorem Value.map_fst_declarations_relabel (v : Value) :
    ((v.relabel c g).declarations c).map (·.1) = (v.declarations c).map (·.1) := by
  have hlists := listsDeclarations c
  induction v using Value.induction with
  | atom v hv => rw [relabel_of_isAtom hv]
  | tuple items ih =>
    rw [relabel_tuple, hlists.tuple, hlists.tuple, List.flatMap_map, List.map_flatMap,
      List.map_flatMap]
    exact List.flatMap_congr ih
  | list items ih =>
    rw [relabel_list, hlists.list, hlists.list, List.flatMap_map, List.map_flatMap,
      List.map_flatMap]
    exact List.flatMap_congr ih
  | set items ih =>
    rw [relabel_set, hlists.set, hlists.set, List.flatMap_map, List.map_flatMap, List.map_flatMap]
    exact List.flatMap_congr ih
  | map entries ih =>
    rw [relabel_map, hlists.map, hlists.map, List.flatMap_map, List.map_flatMap, List.map_flatMap]
    exact List.flatMap_congr fun e he => (ih e he).2
  | record r ih =>
    rw [relabel_record]
    cases hs : (r.schema c).flags.scope with
    | false =>
      have hs' : ((r.relabel c g).schema c).flags.scope = false := by rw [Record.schema_relabel, hs]
      rw [hlists.node _ hs, hlists.node _ hs', r.map_fst_declarationsWith_relabel ih]
    | true =>
      have hs' : ((r.relabel c g).schema c).flags.scope = true := by rw [Record.schema_relabel, hs]
      rw [hlists.scope _ hs, hlists.scope _ hs', r.map_fst_declarationsWith_relabel fun _ _ => rfl]

theorem Record.map_fst_declarations_relabel (r : Record) :
    ((r.relabel c g).declarations c).map (·.1) = (r.declarations c).map (·.1) := by
  rw [declarations_eq, declarations_eq,
    r.map_fst_declarationsWith_relabel fun v _ => v.map_fst_declarations_relabel]

/-! ### Walks -/

namespace Value

theorem map_snd_children_relabel (v : Value) :
    ((v.relabel c g).children c).map (·.2) = ((v.children c).map (·.2)).map (relabel c g) := by
  cases v with
  | tuple items => rw [relabel_tuple, children, map_snd_indexed, children, map_snd_indexed]
  | list items => rw [relabel_list, children, map_snd_indexed, children, map_snd_indexed]
  | set items => simp [children, Function.comp_def]
  | map entries => simp [children, Function.comp_def]
  | record r =>
    rw [relabel_record, children_record, children_record, Record.isNode_relabel]
    by_cases hn : r.isNode = true
    · rw [if_pos hn, if_pos hn, Record.childValues_relabel hn]
    · rw [if_neg hn, if_neg hn, List.map_nil]
  | _ => rfl

/-- A walk over a relabeled tree gives the relabeled items. -/
theorem items_relabel (v : Value) :
    (v.relabel c g).items c .preOrder = (v.items c .preOrder).map (relabel c g) := by
  generalize (Option.none : Option TreeKey) = key
  induction key, v using Value.preOrder.induct c with
  | case1 key v ih =>
    rw [items_preOrder_eq, items_preOrder_eq c v, map_snd_children_relabel, List.map_cons,
      List.flatMap_map, List.map_flatMap, List.flatMap_map, List.flatMap_map]
    exact congrArg _ (List.flatMap_congr fun child hm => ih child.1 child.2 hm)

end Value

end TypedTree
