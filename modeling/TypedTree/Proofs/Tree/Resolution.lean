import TypedTree.Proofs.Construction.Stages
import TypedTree.Proofs.Tree.DepthFirst
import TypedTree.Proofs.Tree.Symbols
import TypedTree.Proofs.World.FieldRoles

/-! # Symbols resolve by the numbers of their nodes -/

namespace TypedTree

namespace Record

variable {c : Catalog} {r s found : Record} {name : String} {id : NodeId}

/-! ### Nodes with a number -/

/-- The record is a node with the number. -/
def Numbered (id : NodeId) (r : Record) : Prop :=
  ∃ node, r.node = some node ∧ node.id = id

/-- The record is one of the items at and below another one. -/
def Within (c : Catalog) (root r : Record) : Prop :=
  .record r ∈ (Value.record root).items c .preOrder

/-- In pre-order, the record is the first node with the number at and below another one. -/
def FirstNumbered (c : Catalog) (root : Record) (id : NodeId) (found : Record) : Prop :=
  ∃ before after, (Value.record root).items c .preOrder = before ++ .record found :: after ∧
    found.Numbered id ∧ ∀ s, .record s ∈ before → ¬ s.Numbered id

theorem FirstNumbered.within (h : FirstNumbered c r id found) : r.Within c found := by
  obtain ⟨before, after, hi, -, -⟩ := h
  rw [Within, hi]
  exact List.mem_append_right before List.mem_cons_self

theorem FirstNumbered.numbered (h : FirstNumbered c r id found) : found.Numbered id := by
  obtain ⟨-, -, -, hn, -⟩ := h
  exact hn

theorem any_node_iff (r : Record) (id : NodeId) :
    r.node.any (·.id == id) = true ↔ r.Numbered id := by
  cases hn : r.node <;> simp [Numbered, hn]

/-- The item, if it is a node with the number. -/
def numbered? (id : NodeId) : Value → Option Record
  | .record s => if s.node.any (·.id == id) then some s else none
  | _ => none

theorem numbered?_eq_some_iff (item : Value) :
    numbered? id item = some found ↔ item = .record found ∧ found.Numbered id := by
  cases item with
  | record s =>
    rw [numbered?, Value.record.injEq]
    by_cases hs : s.node.any (·.id == id) = true
    · rw [if_pos hs, Option.some.injEq]
      exact ⟨fun h => ⟨h, h ▸ (any_node_iff s id).mp hs⟩, And.left⟩
    · rw [if_neg hs]
      constructor
      · intro h
        cases h
      · rintro ⟨rfl, hn⟩
        exact absurd ((any_node_iff s id).mpr hn) hs
  | _ => simp [numbered?]

theorem numbered?_eq_none_iff (item : Value) :
    numbered? id item = none ↔ ∀ s, item = .record s → ¬ s.Numbered id := by
  rw [Option.eq_none_iff_forall_ne_some]
  simp only [ne_eq, numbered?_eq_some_iff, not_and]

theorem findSome?_numbered?_iff :
    ((Value.record r).items c .preOrder).findSome? (numbered? id) = some found ↔
      FirstNumbered c r id found := by
  simp only [FirstNumbered, List.findSome?_eq_some_iff, numbered?_eq_some_iff,
    numbered?_eq_none_iff]
  constructor
  · rintro ⟨before, item, after, hi, ⟨rfl, hn⟩, hb⟩
    exact ⟨before, after, hi, hn, fun s hs => hb _ hs s rfl⟩
  · rintro ⟨before, after, hi, hn, hb⟩
    refine ⟨before, _, after, hi, ⟨rfl, hn⟩, ?_⟩
    rintro _ hs s rfl
    exact hb s hs

theorem resolveSymbol?_eq_some_iff : r.resolveSymbol? c name = some found ↔
    ∃ table id, r.symbols? = some table ∧ table.find? name = some id ∧
      FirstNumbered c r id found := by
  simp only [resolveSymbol?, Option.bind_eq_bind, Option.bind_eq_some_iff]
  constructor
  · rintro ⟨table, ht, id, hi, hf⟩
    exact ⟨table, id, ht, hi, findSome?_numbered?_iff.mp hf⟩
  · rintro ⟨table, id, ht, hi, hf⟩
    exact ⟨table, ht, id, hi, findSome?_numbered?_iff.mpr hf⟩

end Record

/-! ### Declarations and the nodes that make them -/

variable {c : Catalog} {name : String} {id : NodeId}

theorem Value.exists_of_mem_ownDeclarations {item : Value}
    (h : (name, id) ∈ item.ownDeclarations c) :
    ∃ s, item = .record s ∧ s.Numbered id ∧ s.Declares c name := by
  cases item with
  | record s =>
    rw [ownDeclarations] at h
    cases hn : s.node with
    | none => simp [hn] at h
    | some node =>
      simp only [hn, List.mem_map, Prod.mk.injEq] at h
      obtain ⟨_, hm, rfl, rfl⟩ := h
      rw [Record.ownSymbols_eq, Record.mem_symbolNames_iff] at hm
      exact ⟨s, rfl, ⟨node, hn, rfl⟩, hm⟩
  | _ => cases h

/-- What is declared below an item is declared by a node below it, if that is so for its
children. -/
theorem Value.exists_declares_of_children {key : Option TreeKey} {item : Value}
    (ih : ∀ k child, (k, child) ∈ item.children c → (name, id) ∈ child.declarations c →
      ∃ s, .record s ∈ (child.preOrder c (some k)).map (·.2) ∧ s.Numbered id ∧ s.Declares c name)
    (h : (name, id) ∈ item.ownDeclarations c ∨ (name, id) ∈ item.declarationsBelow c) :
    ∃ s, .record s ∈ (item.preOrder c key).map (·.2) ∧ s.Numbered id ∧ s.Declares c name := by
  rw [preOrder_eq, List.map_cons, List.map_flatMap]
  rcases h with h | h
  · obtain ⟨s, rfl, hn, hd⟩ := exists_of_mem_ownDeclarations h
    exact ⟨s, List.mem_cons_self, hn, hd⟩
  · obtain ⟨⟨k, child⟩, hm, hd⟩ := List.mem_flatMap.mp h
    obtain ⟨s, hs, hn, hd⟩ := ih k child hm hd
    have hplaced : (some k, child) ∈ placedChildren c item := List.mem_map_of_mem hm
    exact ⟨s, List.mem_cons_of_mem _ (List.mem_flatMap.mpr ⟨_, hplaced, hs⟩), hn, hd⟩

/-- Every declaration at and below an item is made by one of its nodes. -/
theorem Value.exists_declares {key : Option TreeKey} {item : Value}
    (h : (name, id) ∈ item.declarations c) : ∃ s, .record s ∈ (item.preOrder c key).map (·.2) ∧
      s.Numbered id ∧ s.Declares c name := by
  induction key, item using Value.preOrder.induct c with
  | case1 key item ih =>
    refine exists_declares_of_children ih ?_
    rw [declarations_eq, List.mem_append] at h
    refine h.imp_right fun h => ?_
    by_cases hs : item.opensScope c = true
    · rw [if_pos hs] at h
      cases h
    · rwa [if_neg hs] at h

namespace Record

variable {r : Record}

/-- Every declaration of a scope is made by a node at or below it. -/
theorem exists_declares (h : (name, id) ∈ r.declarations c) :
    ∃ s, r.Within c s ∧ s.Numbered id ∧ s.Declares c name := by
  simp only [Within, Value.items_preOrder]
  refine Value.exists_declares_of_children (fun k child _ => Value.exists_declares) ?_
  exact List.mem_append.mp h

/-- Some node comes first among those with a number. -/
theorem exists_firstNumbered {s : Record} (hs : r.Within c s) (hn : s.Numbered id) :
    ∃ found, FirstNumbered c r id found := by
  have hsome : ((Value.record r).items c .preOrder).findSome? (numbered? id) ≠ none := by
    intro hnone
    exact (numbered?_eq_none_iff _).mp (List.findSome?_eq_none_iff.mp hnone _ hs) s rfl hn
  obtain ⟨found, hf⟩ := Option.ne_none_iff_exists'.mp hsome
  exact ⟨found, findSome?_numbered?_iff.mp hf⟩

/-! ### The symbols of a constructed scope -/

theorem declarations_withSymbols (c : Catalog) (r : Record) :
    (r.withSymbols c).declarations c = r.declarations c := by
  rw [withSymbols]
  split
  · rw [declarations_eq, declarations_eq, declarationsWith, declarationsWith]
    cases r.node <;> rfl
  · rfl

theorem symbols?_withSymbols {node : NodeInfo} (hs : (r.schema c).flags.scope = true)
    (hn : r.node = some node) : (r.withSymbols c).symbols? = some ⟨r.declarations c⟩ := by
  rw [withSymbols, if_pos hs, symbols?, hn]
  rfl

/-- How the symbols of a scope resolve: to the first node with the number that the table gives. Some
node with that number declares the symbol, but another one may come first. -/
structure ResolvesByNumber (c : Catalog) (r : Record) : Prop where
  table : r.symbols? = some ⟨r.declarations c⟩
  unknown : ∀ name, name ∉ (r.declarations c).map (·.1) → r.resolveSymbol? c name = none
  found : ∀ name id, (name, id) ∈ r.declarations c →
    ∃ found, r.resolveSymbol? c name = some found ∧ FirstNumbered c r id found
  declared : ∀ name id, (name, id) ∈ r.declarations c →
    ∃ s, r.Within c s ∧ s.Numbered id ∧ s.Declares c name
  /-- The nodes with the number are copies of each other that declare the same. -/
  unchanged : ∀ name id, (name, id) ∈ r.declarations c →
    (∀ s s', r.Within c s → r.Within c s' → s.Numbered id → s'.Numbered id →
      s.Declares c name → s'.Declares c name) →
    ∃ found, r.resolveSymbol? c name = some found ∧ r.Within c found ∧ found.Declares c name

theorem resolvesByNumber (ht : r.symbols? = some ⟨r.declarations c⟩)
    (hd : ((r.declarations c).map (·.1)).Nodup) : r.ResolvesByNumber c := by
  have hfound : ∀ name id, (name, id) ∈ r.declarations c →
      ∃ found, r.resolveSymbol? c name = some found ∧ FirstNumbered c r id found := by
    intro name id hm
    obtain ⟨s, hs, hn, -⟩ := exists_declares hm
    obtain ⟨found, hf⟩ := exists_firstNumbered hs hn
    have hlookup := lookup_eq_some_of_mem hd hm
    exact ⟨found, resolveSymbol?_eq_some_iff.mpr ⟨_, id, ht, hlookup, hf⟩, hf⟩
  refine ⟨ht, fun name hn => ?_, hfound, fun name id => exists_declares, fun name id hm hsame => ?_⟩
  · have hlookup := lookup_eq_none_of_not_mem hn
    refine Option.eq_none_iff_forall_ne_some.mpr fun found hf => ?_
    obtain ⟨table, id, ht', hid, -⟩ := resolveSymbol?_eq_some_iff.mp hf
    cases ht.symm.trans ht'
    cases hlookup.symm.trans hid
  · obtain ⟨found, hr, hf⟩ := hfound name id hm
    obtain ⟨s, hs, hn, hd⟩ := exists_declares hm
    exact ⟨found, hr, hf.within, hsame s found hs hf.within hn hf.numbered hd⟩

end Record

namespace World

variable {w : World}

/-- Whatever the arguments of a scope are and however they came about, its symbols resolve by the
numbers of its nodes. -/
theorem resolvesByNumber_of_construct (hw : Reachable w) {h : Hooks} {t : TypeId}
    {arguments : List (String × Value)} {s : State} {r : Record}
    (hs : (w.catalog.schema t).flags.scope = true)
    (he : ((construct h w.catalog t arguments).exec s).1 = .ok r) :
    r.ResolvesByNumber w.catalog := by
  obtain @⟨values, s₁, -, -, -, -, hd⟩ := exec_construct_eq_ok_iff.mp he
  have hnode : (w.catalog.schema t).isNode = true :=
    (hw.regular.schema t (Catalog.lt_length_of_scope hs)).scope hs
  have hdraft : (draft w.catalog t s₁ values).node =
      some ⟨(s₁.session (w.catalog.schema t).session).nextId, none⟩ := if_pos hnode
  refine Record.resolvesByNumber ?_ ?_
  · rw [Record.declarations_withSymbols]
    exact Record.symbols?_withSymbols hs hdraft
  · rw [Record.declarations_withSymbols]
    exact hd hs

/-! ### A copy that declares another symbol -/

/-- A field that may declare a symbol. -/
def symbolField : FieldDecl where
  name := "name"
  type := some (.optional (.scalar (.symbol .identifier)))
  default := some .none

def entryDeclaration : Declaration where
  session := 0
  name := "Entry"
  kind := .node
  fields := [symbolField]

/-- A scope of any nodes. -/
def moduleDeclaration : Declaration where
  session := 0
  name := "Module"
  kind := .node
  fields := [{ name := "body", type := some (.list .any) }]
  scope := true

def entryWorld : World :=
  openWorld.after (.declare entryDeclaration)

/-- A world in which both are declared. -/
def moduleWorld : World :=
  entryWorld.after (.declare moduleDeclaration)

theorem reachable_moduleWorld : Reachable moduleWorld := by
  have hentry : Reachable entryWorld := reachable_openWorld.step trivial ⟨by decide, by decide⟩
  exact hentry.step trivial ⟨by decide, by decide⟩

/-- An entry with the first number, by what stands in its field. -/
def entry (v : Value) : Record :=
  ⟨0, [v], some ⟨1, none⟩, []⟩

/-- Two copies of the entry that declare symbols of their own. -/
def renamedCopies : Value :=
  .list [.record (entry (.str "a")), .record (entry (.str "b"))]

/-- A module of the two copies. -/
def copiesModule : Record :=
  ⟨1, [renamedCopies], some ⟨2, some ⟨[("a", 1), ("b", 1)]⟩⟩, []⟩

theorem declarations_entry (name : String) :
    (Value.record (entry (.str name))).declarations moduleWorld.catalog = [(name, 1)] := by
  have hsymbols : (entry (.str name)).symbolNames moduleWorld.catalog = [name] := rfl
  have hchildren : (entry (.str name)).childValues moduleWorld.catalog = [.str name] := rfl
  rw [Value.declarations_record_of_atoms rfl rfl, hsymbols]
  · rfl
  · rw [hchildren]
    exact List.forall_mem_singleton.mpr rfl

theorem declarations_renamedCopies :
    renamedCopies.declarations moduleWorld.catalog = [("a", 1), ("b", 1)] := by
  have hlists := listsDeclarations moduleWorld.catalog
  rw [renamedCopies, hlists.list, List.flatMap_cons, List.flatMap_singleton, declarations_entry,
    declarations_entry]
  rfl

/-- The state once an entry is numbered. -/
def numberedState : State :=
  { sessions := [{ nextId := 2 }] }

theorem exec_construct_entry :
    (construct PureHooks.permissive.toHooks moduleWorld.catalog 0 []).exec moduleWorld.state =
      (.ok (entry .none), numberedState) := by
  rfl

theorem exec_construct_copiesModule :
    ((construct PureHooks.permissive.toHooks moduleWorld.catalog 1
      [("body", renamedCopies)]).exec numberedState).1 = .ok copiesModule := by
  have hdeclarations : (draft moduleWorld.catalog 1 numberedState [renamedCopies]).declarations
      moduleWorld.catalog = [("a", 1), ("b", 1)] := by
    have hchildren : (draft moduleWorld.catalog 1 numberedState [renamedCopies]).childValues
      moduleWorld.catalog = [renamedCopies] := rfl
    rw [Record.declarations_eq, Record.declarationsWith, hchildren, List.flatMap_singleton,
      declarations_renamedCopies]
    rfl
  have hsymbols : (draft moduleWorld.catalog 1 numberedState [renamedCopies]).withSymbols
      moduleWorld.catalog = copiesModule := by
    rw [Record.withSymbols, hdeclarations]
    rfl
  have hfit : ArgumentsFit (moduleWorld.catalog.schema 1) ["body"] :=
    ⟨List.nodup_singleton _, by simpa using ⟨_, rfl, rfl⟩⟩
  rw [exec_construct_eq_ok_iff, ← hsymbols]
  refine .intro rfl hfit rfl rfl fun _ => ?_
  rw [hdeclarations]
  decide

theorem preOrder_entry (key : Option TreeKey) (name : String) :
    (Value.record (entry (.str name))).preOrder moduleWorld.catalog key =
      [(key, .record (entry (.str name))), (some (.field "name"), .str name)] := by
  have hentry : placedChildren moduleWorld.catalog (.record (entry (.str name))) =
    [(some (.field "name"), .str name)] := rfl
  have hname : placedChildren moduleWorld.catalog (.str name) = [] := rfl
  rw [Value.preOrder_eq, hentry, List.flatMap_singleton, Value.preOrder_eq, hname, List.flatMap_nil]

theorem items_copiesModule : (Value.record copiesModule).items moduleWorld.catalog .preOrder =
    [.record copiesModule, renamedCopies, .record (entry (.str "a")), .str "a",
      .record (entry (.str "b")), .str "b"] := by
  have hmodule : placedChildren moduleWorld.catalog (.record copiesModule) =
    [(some (.field "body"), renamedCopies)] := rfl
  have hcopies : placedChildren moduleWorld.catalog renamedCopies =
    [(some (.index 0), .record (entry (.str "a"))),
      (some (.index 1), .record (entry (.str "b")))] := rfl
  rw [Value.items_preOrder, Value.preOrder_eq, hmodule, List.flatMap_singleton, Value.preOrder_eq,
    hcopies, List.flatMap_cons, List.flatMap_singleton, preOrder_entry, preOrder_entry]
  rfl

theorem resolveSymbol?_copiesModule :
    copiesModule.resolveSymbol? moduleWorld.catalog "b" = some (entry (.str "a")) := by
  have hfirst : Record.FirstNumbered moduleWorld.catalog copiesModule 1 (entry (.str "a")) := by
    rw [← Record.findSome?_numbered?_iff, items_copiesModule]
    rfl
  exact Record.resolveSymbol?_eq_some_iff.mpr ⟨_, 1, rfl, rfl, hfirst⟩

/-- Both symbols resolve to the first copy. -/
theorem resolvesByNumber_copiesModule :
    ((construct PureHooks.permissive.toHooks moduleWorld.catalog 1
      [("body", renamedCopies)]).exec numberedState).1 = .ok copiesModule ∧
    copiesModule.symbols? = some ⟨copiesModule.declarations moduleWorld.catalog⟩ ∧
      ∃ found, copiesModule.resolveSymbol? moduleWorld.catalog "b" = some found ∧
        Record.FirstNumbered moduleWorld.catalog copiesModule 1 found := by
  have hresolves := resolvesByNumber_of_construct reachable_moduleWorld (t := 1) rfl
    exec_construct_copiesModule
  have hdeclared : copiesModule.declarations moduleWorld.catalog = [("a", 1), ("b", 1)] :=
    congrArg SymbolTable.entries (Option.some.inj hresolves.table.symm)
  refine ⟨exec_construct_copiesModule, hresolves.table, hresolves.found "b" 1 ?_⟩
  rw [hdeclared]
  decide

/-- A symbol of a scope may resolve to a node that does not declare it. -/
theorem not_resolves_to_declaring :
    ¬ ∀ (w : World) (h : Hooks) (s s' : State) (t u : TypeId) (given : List (String × Value))
        (made first second r : Record) (field : String) (v v' : Value) (body name : String),
      Reachable w → ((construct h w.catalog t given).exec s) = (.ok made, s') →
      made.set w.catalog field v = .ok first → made.set w.catalog field v' = .ok second →
      ((construct h w.catalog u [(body, .list [.record first, .record second])]).exec s').1 =
        .ok r →
      (w.catalog.schema u).flags.scope = true →
      (∃ table, r.symbols? = some table ∧ name ∈ table.names) →
      ∃ found, r.resolveSymbol? w.catalog name = some found ∧ r.Within w.catalog found ∧
        found.Declares w.catalog name := by
  intro hall
  have htable : ∃ table, copiesModule.symbols? = some table ∧ "b" ∈ table.names :=
    ⟨_, rfl, by decide⟩
  obtain ⟨found, hfound, -, hdeclares⟩ := hall moduleWorld PureHooks.permissive.toHooks
    moduleWorld.state numberedState 0 1 [] (entry .none) (entry (.str "a")) (entry (.str "b"))
    copiesModule "name" (.str "a") (.str "b") "body" "b" reachable_moduleWorld
    exec_construct_entry rfl rfl exec_construct_copiesModule rfl htable
  obtain rfl : entry (.str "a") = found :=
    Option.some.inj (resolveSymbol?_copiesModule.symm.trans hfound)
  have hnames : (entry (.str "a")).symbolNames moduleWorld.catalog = ["a"] := rfl
  rw [← Record.mem_symbolNames_iff, hnames] at hdeclares
  exact absurd hdeclares (by decide)

end World

end TypedTree
