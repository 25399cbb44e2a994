import TypedTree.Tree.Symbols

/-! # Symbol tables against the recursive list of declarations -/

namespace TypedTree

/-! ### The list of declarations -/

/-- What an item declares, followed by what is declared below it, unless it opens a scope. -/
def Value.declarations (c : Catalog) (item : Value) : List (String × NodeId) :=
  item.ownDeclarations c ++
    if item.opensScope c then []
    else (item.children c).attach.flatMap fun ⟨(_, child), _⟩ => child.declarations c
termination_by item
decreasing_by exact sizeOf_lt_of_mem_children ‹_›

/-- What is declared below an item. -/
def Value.declarationsBelow (c : Catalog) (item : Value) : List (String × NodeId) :=
  (item.children c).flatMap fun p => p.2.declarations c

/-- What a scope declares, followed by what is declared below it. -/
def Record.declarations (c : Catalog) (r : Record) : List (String × NodeId) :=
  (Value.record r).ownDeclarations c ++ (Value.record r).declarationsBelow c

theorem Value.declarations_eq (c : Catalog) (item : Value) :
    item.declarations c =
      item.ownDeclarations c ++ if item.opensScope c then [] else item.declarationsBelow c := by
  rw [declarations, declarationsBelow]
  congr 2
  rw [List.flatMap_subtype (fun _ _ => rfl), List.unattach_attach]

namespace SymbolTable

/-! ### Declaring a list of symbols -/

theorem contains_iff (table : SymbolTable) (name : String) :
    table.contains name = true ↔ name ∈ table.names := by
  simp [contains, names]

theorem declare_append (scope : TypeId) (table : SymbolTable) (ds es : List (String × NodeId)) :
    table.declare scope (ds ++ es) =
      (table.declare scope ds).bind fun table => table.declare scope es := by
  induction ds generalizing table with
  | nil => rfl
  | cons d ds ih =>
    obtain ⟨name, id⟩ := d
    simp only [List.cons_append, declare]
    split
    · rfl
    · exact ih _

/-- Symbols that are all different, and different from those of the table, are added in order. -/
theorem declare_eq_ok {scope : TypeId} {table : SymbolTable} {ds : List (String × NodeId)}
    (h : (table.names ++ ds.map (·.1)).Nodup) :
    table.declare scope ds = .ok ⟨table.entries ++ ds⟩ := by
  induction ds generalizing table with
  | nil => simp [declare]
  | cons d ds ih =>
    obtain ⟨name, id⟩ := d
    have hn : name ∉ table.names := by
      intro hm
      exact (List.nodup_append.mp h).2.2 name hm name (by simp) rfl
    rw [declare, if_neg (mt (contains_iff table name).mp hn), ih (by simpa [names] using h)]
    simp

/-- The first symbol that is there already is the one reported. -/
theorem declare_eq_error {scope : TypeId} {table : SymbolTable}
    {before after : List (String × NodeId)}
    {name : String} {id : NodeId} (h : (table.names ++ before.map (·.1)).Nodup)
    (hm : name ∈ table.names ++ before.map (·.1)) :
    table.declare scope (before ++ (name, id) :: after) = .error (.duplicateSymbol name scope) := by
  have hc : (SymbolTable.mk (table.entries ++ before)).contains name = true := by
    rw [contains_iff]
    simpa [names] using hm
  rw [declare_append, declare_eq_ok h]
  simp only [Except.bind, declare, hc, if_true]

/-! ### The walk over pending items -/

theorem collectFrom_eq_declare (c : Catalog) (scope : TypeId) (table : SymbolTable)
    (pending : List Value) :
    table.collectFrom c scope pending =
      table.declare scope (pending.flatMap (·.declarations c)) := by
  fun_induction collectFrom c scope table pending with
  | case1 => rfl
  | case2 table item rest e he =>
    rw [List.flatMap_cons, Value.declarations_eq, List.append_assoc, declare_append, he]
    rfl
  | case3 table item rest table' ht hs ih =>
    rw [List.flatMap_cons, Value.declarations_eq, if_pos hs, List.append_nil, declare_append, ht]
    exact ih
  | case4 table item rest table' ht hs ih =>
    rw [List.flatMap_cons, Value.declarations_eq, if_neg hs, List.append_assoc, declare_append, ht,
      ih, List.flatMap_append, Value.declarationsBelow, List.flatMap_map]
    rfl

theorem collect_eq_declare (c : Catalog) (r : Record) :
    SymbolTable.collect c r = SymbolTable.declare r.type ⟨[]⟩ (r.declarations c) := by
  rw [collect, Record.declarations, declare_append]
  cases SymbolTable.declare r.type ⟨[]⟩ ((Value.record r).ownDeclarations c) with
  | error e => rfl
  | ok table =>
    change table.collectFrom c r.type _ = table.declare r.type _
    rw [collectFrom_eq_declare, Value.declarationsBelow, List.flatMap_map]

/-! ### The table of a scope -/

variable {c : Catalog} {r : Record}

theorem collect_eq_ok (h : ((r.declarations c).map (·.1)).Nodup) :
    SymbolTable.collect c r = .ok ⟨r.declarations c⟩ := by
  rw [collect_eq_declare]
  exact declare_eq_ok (by simpa [names] using h)

theorem collect_eq_error {before after : List (String × NodeId)} {name : String} {id : NodeId}
    (hd : r.declarations c = before ++ (name, id) :: after) (hb : (before.map (·.1)).Nodup)
    (hm : name ∈ before.map (·.1)) :
    SymbolTable.collect c r = .error (.duplicateSymbol name r.type) := by
  rw [collect_eq_declare, hd]
  exact declare_eq_error (by simpa [names] using hb) (by simpa [names] using hm)

end SymbolTable

end TypedTree
