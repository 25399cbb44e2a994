import TypedTree.Proofs.List.First
import TypedTree.Proofs.Tree.Declarations
import TypedTree.Proofs.Value.Induction

/-! # Symbol tables by the shapes of items -/

namespace TypedTree

/-! ### Types of symbol names -/

/-- The type is a symbol name, possibly under optionals. -/
inductive Ty.NamesSymbol : Ty → Prop where
  | symbol (pattern : SymbolPattern) : NamesSymbol (.scalar (.symbol pattern))
  | optional {inner : Ty} (h : NamesSymbol inner) : NamesSymbol (.optional inner)

theorem Ty.isSymbol_iff (t : Ty) : t.isSymbol = true ↔ t.NamesSymbol := by
  constructor
  · intro h
    fun_induction isSymbol t with
    | case1 pattern => exact .symbol pattern
    | case2 inner ih => exact .optional (ih h)
    | case3 => cases h
  · intro h
    induction h with
    | symbol => rfl
    | optional _ ih => exact ih

instance : DecidablePred Ty.NamesSymbol :=
  fun t => decidable_of_iff _ t.isSymbol_iff

/-! ### Fields of a record -/

namespace Record

/-- The values of child fields, in the order of the field table. -/
def childValues (c : Catalog) (r : Record) : List Value :=
  ((r.schema c).fields.zip r.values).filterMap fun p => if p.1.kind = .child then some p.2 else none

/-- The strings in fields whose types are symbol names, in the order of the field table. The roles
of the fields do not matter. -/
def symbolNames (c : Catalog) (r : Record) : List String :=
  ((r.schema c).fields.zip r.values).filterMap fun p =>
    if p.1.type.NamesSymbol then p.2.asString? else none

/-- A field whose type is a symbol name holds the string. -/
def Declares (c : Catalog) (r : Record) (name : String) : Prop :=
  ∃ (i : Nat) (f : Field), (r.schema c).fields[i]? = some f ∧ f.type.NamesSymbol ∧
    r.values[i]? = some (.str name)

theorem map_snd_children (c : Catalog) (r : Record) :
    (r.children c).map (·.2) = r.childValues c := by
  rw [children, ofKind, Schema.select, List.map_filterMap, childValues]
  congr 1
  funext p
  obtain ⟨f, v⟩ := p
  by_cases hf : f.kind = .child
  · simp [hf]
  · simp [hf]

theorem ownSymbols_eq (c : Catalog) (r : Record) : r.ownSymbols c = r.symbolNames c := by
  rw [ownSymbols, Schema.select, List.filterMap_filterMap, symbolNames]
  congr 1
  funext p
  obtain ⟨f, v⟩ := p
  have hsymbol := f.type.isSymbol_iff
  by_cases hf : f.type.NamesSymbol
  · simp [hf, hsymbol.mpr hf]
  · simp [hf, mt hsymbol.mp hf]

theorem mem_symbolNames_iff {c : Catalog} {r : Record} {name : String} :
    name ∈ r.symbolNames c ↔ r.Declares c name := by
  have hstring : ∀ v : Value, v.asString? = some name ↔ v = .str name := by
    intro v
    cases v <;> simp [Value.asString?]
  rw [symbolNames, List.mem_filterMap]
  constructor
  · rintro ⟨⟨f, v⟩, hm, hn⟩
    obtain ⟨i, hi⟩ := List.mem_iff_getElem?.mp hm
    obtain ⟨hf, hv⟩ := List.getElem?_zip_eq_some.mp hi
    by_cases hs : f.type.NamesSymbol
    · simp only [hs, if_true, hstring] at hn
      exact ⟨i, f, hf, hs, hn ▸ hv⟩
    · simp [hs] at hn
  · rintro ⟨i, f, hf, hs, hv⟩
    have hi : ((r.schema c).fields.zip r.values)[i]? = some (f, .str name) :=
      List.getElem?_zip_eq_some.mpr ⟨hf, hv⟩
    exact ⟨(f, .str name), List.mem_of_getElem? hi, by simp [hs, Value.asString?]⟩

/-- The names of a node's symbol fields, with its number, followed by what `below` lists for each
of its child fields in turn. A plain record declares nothing. -/
def declarationsWith (c : Catalog) (below : Value → List (String × NodeId)) (r : Record) :
    List (String × NodeId) :=
  match r.node with
  | some node => (r.symbolNames c).map (·, node.id) ++ (r.childValues c).flatMap below
  | none => []

theorem mem_values_of_mem_childValues {c : Catalog} (r : Record) {v : Value}
    (hv : v ∈ r.childValues c) : v ∈ r.values := by
  obtain ⟨⟨f, x⟩, hm, hx⟩ := List.mem_filterMap.mp hv
  by_cases hf : f.kind = .child
  · simp only [hf, if_true, Option.some.injEq] at hx
    exact hx ▸ (List.of_mem_zip hm).2
  · simp [hf] at hx

theorem declarationsWith_congr {c : Catalog} {below below' : Value → List (String × NodeId)}
    (r : Record) (h : ∀ v ∈ r.childValues c, below v = below' v) :
    r.declarationsWith c below = r.declarationsWith c below' := by
  rw [declarationsWith, declarationsWith, List.flatMap_congr h]

end Record

/-! ### The declarations of an item -/

/-- How the declarations of an item are listed, by its shape. Nothing is listed for the keys of a
map, for plain records and for fields that are no children, and a scope is not entered. -/
structure ListsDeclarations (c : Catalog) (D : Value → List (String × NodeId)) : Prop where
  atom : ∀ v, v.isAtom = true → D v = []
  tuple : ∀ items, D (.tuple items) = items.flatMap D
  list : ∀ items, D (.list items) = items.flatMap D
  set : ∀ items, D (.set items) = items.flatMap D
  map : ∀ entries, D (.map entries) = entries.flatMap fun e => D e.2
  node : ∀ r, (r.schema c).flags.scope = false → D (.record r) = r.declarationsWith c D
  scope : ∀ r, (r.schema c).flags.scope = true →
    D (.record r) = r.declarationsWith c fun _ => []

theorem Value.ownDeclarations_record (c : Catalog) (r : Record) :
    (Value.record r).ownDeclarations c = r.declarationsWith c fun _ => [] := by
  rw [ownDeclarations, Record.declarationsWith]
  cases r.node with
  | none => rfl
  | some node => simp [Record.ownSymbols_eq]

theorem Value.children_record (c : Catalog) (r : Record) :
    ((Value.record r).children c).map (·.2) = if r.isNode then r.childValues c else [] := by
  rw [children, ← Record.map_snd_children]
  by_cases hn : r.isNode = true
  · simp [hn]
  · simp [hn]

/-- What a record declares by itself comes first, then what is listed for its children. -/
theorem Record.declarationsWith_append (c : Catalog) (below : Value → List (String × NodeId))
    (r : Record) : (r.declarationsWith c fun _ => []) ++
      (((Value.record r).children c).map (·.2)).flatMap below = r.declarationsWith c below := by
  rw [Value.children_record, declarationsWith, declarationsWith, isNode]
  cases r.node with
  | none => rfl
  | some node => simp

theorem Value.declarations_eq_flatMap {c : Catalog} {item : Value}
    (ho : item.ownDeclarations c = []) (hs : item.opensScope c = false) :
    item.declarations c = ((item.children c).map (·.2)).flatMap (·.declarations c) := by
  rw [declarations_eq, declarationsBelow, ho, hs, List.flatMap_map]
  rfl

theorem listsDeclarations (c : Catalog) : ListsDeclarations c (·.declarations c) where
  atom v hv := by
    cases v with
    | tuple | list | set | map | record => cases hv
    | _ => exact Value.declarations_eq_flatMap rfl rfl
  tuple items := by
    rw [Value.declarations_eq_flatMap rfl rfl, Value.children, map_snd_indexed]
  list items := by
    rw [Value.declarations_eq_flatMap rfl rfl, Value.children, map_snd_indexed]
  set items := by
    rw [Value.declarations_eq_flatMap rfl rfl, Value.children, List.map_map]
    exact congrArg _ (List.map_id items)
  map entries := by
    rw [Value.declarations_eq_flatMap rfl rfl, Value.children, List.map_map, List.flatMap_map]
    rfl
  node r hs := by
    have hopens : (Value.record r).opensScope c = false := hs
    have happend := r.declarationsWith_append c (·.declarations c)
    rw [List.flatMap_map] at happend
    rw [Value.declarations_eq, Value.ownDeclarations_record, hopens]
    exact happend
  scope r hs := by
    have hopens : (Value.record r).opensScope c = true := hs
    rw [Value.declarations_eq, Value.ownDeclarations_record, if_pos hopens, List.append_nil]

theorem Record.declarations_eq (c : Catalog) (r : Record) :
    r.declarations c = r.declarationsWith c (·.declarations c) := by
  have happend := r.declarationsWith_append c (·.declarations c)
  rw [List.flatMap_map] at happend
  rw [declarations, Value.ownDeclarations_record]
  exact happend

/-- A node that no other node is below declares its own symbols only. -/
theorem Value.declarations_record_of_atoms {c : Catalog} {r : Record} {node : NodeInfo}
    (hs : (r.schema c).flags.scope = false) (hn : r.node = some node)
    (hc : ∀ v ∈ r.childValues c, v.isAtom = true) :
    (Value.record r).declarations c = (r.symbolNames c).map (·, node.id) := by
  have hbelow : (r.childValues c).flatMap (·.declarations c) = [] :=
    List.flatMap_eq_nil_iff.mpr fun v hv => (listsDeclarations c).atom v (hc v hv)
  simp only [(listsDeclarations c).node r hs, Record.declarationsWith, hn, hbelow, List.append_nil]

/-- The shapes of items leave no choice. -/
theorem ListsDeclarations.eq {c : Catalog} {D E : Value → List (String × NodeId)}
    (hD : ListsDeclarations c D) (hE : ListsDeclarations c E) (v : Value) : D v = E v := by
  induction v using Value.induction with
  | atom v hv => rw [hD.atom v hv, hE.atom v hv]
  | tuple items ih => rw [hD.tuple, hE.tuple, List.flatMap_congr ih]
  | list items ih => rw [hD.list, hE.list, List.flatMap_congr ih]
  | set items ih => rw [hD.set, hE.set, List.flatMap_congr ih]
  | map entries ih => rw [hD.map, hE.map, List.flatMap_congr fun e he => (ih e he).2]
  | record r ih =>
    cases hs : (r.schema c).flags.scope with
    | true => rw [hD.scope r hs, hE.scope r hs]
    | false =>
      have hbelow : ∀ v ∈ r.childValues c, D v = E v :=
        fun v hv => ih v (r.mem_values_of_mem_childValues hv)
      rw [hD.node r hs, hE.node r hs, r.declarationsWith_congr hbelow]

/-! ### The table of a scope -/

/-- What comes of putting declarations into a table one after another: a table of them all, in their
order, or an error that names the first one whose name is there already. -/
inductive Tabulates (scope : TypeId) :
    List (String × NodeId) → Except InstanceError SymbolTable → Prop where
  | distinct {ds : List (String × NodeId)} (h : (ds.map (·.1)).Nodup) :
      Tabulates scope ds (.ok ⟨ds⟩)
  | duplicate {before after : List (String × NodeId)} {name : String} {id : NodeId}
      (hb : (before.map (·.1)).Nodup) (hm : name ∈ before.map (·.1)) :
      Tabulates scope (before ++ (name, id) :: after) (.error (.duplicateSymbol name scope))

/-- The table of a scope holds what the shapes of the items say: the symbols of the scope itself and
of what is below it, up to other scopes and with their own symbols. -/
theorem collect_tabulates (c : Catalog) :
    ∃ D, ListsDeclarations c D ∧ (∀ E, ListsDeclarations c E → E = D) ∧
      ∀ r : Record, Tabulates r.type (r.declarationsWith c D) (SymbolTable.collect c r) := by
  refine ⟨(·.declarations c), listsDeclarations c,
    fun E hE => funext (hE.eq (listsDeclarations c)), fun r => ?_⟩
  rw [← Record.declarations_eq]
  rcases nodup_or_first_duplicate (·.1) (r.declarations c) with
    hn | ⟨before, ⟨name, id⟩, after, hd, hb, hm⟩
  · rw [SymbolTable.collect_eq_ok hn]
    exact .distinct hn
  · rw [SymbolTable.collect_eq_error hd hb hm, hd]
    exact .duplicate hb hm

end TypedTree
