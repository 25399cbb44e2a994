import TypedTree.Record.Error
import TypedTree.Tree.Walk

/-!
# Symbols declared below a node

A field declares a symbol when its type is a symbol name and it holds a string. The table of a
scope lists the symbols declared by the nodes below it in pre-order, where nodes inside of another
scope are left out; that scope's own symbols are listed. No symbol may be declared twice.
-/

namespace TypedTree

namespace SymbolTable

def find? (table : SymbolTable) (name : String) : Option NodeId :=
  table.entries.lookup name

def contains (table : SymbolTable) (name : String) : Bool :=
  table.entries.any (·.1 == name)

def names (table : SymbolTable) : List String :=
  table.entries.map (·.1)

def size (table : SymbolTable) : Nat :=
  table.entries.length

end SymbolTable

/-- The symbols that a record declares by itself, in the order of the field table. -/
def Record.ownSymbols (c : Catalog) (r : Record) : List String :=
  ((r.schema c).select (·.type.isSymbol) r.values).filterMap fun (_, v) => v.asString?

/-- The declarations that an item makes by itself: only nodes declare. -/
def Value.ownDeclarations (c : Catalog) : Value → List (String × NodeId)
  | .record r =>
    match r.node with
    | some node => (r.ownSymbols c).map (·, node.id)
    | .none => []
  | _ => []

/-- Whether the item is a record whose type opens a scope. -/
def Value.opensScope (c : Catalog) : Value → Bool
  | .record r => (r.schema c).flags.scope
  | _ => false

/-- Adds declarations to a table, unless a symbol would be declared twice. -/
def SymbolTable.declare (scope : TypeId) (table : SymbolTable) :
    List (String × NodeId) → Except InstanceError SymbolTable
  | [] => .ok table
  | (name, id) :: rest =>
    if table.contains name then .error (.duplicateSymbol name scope)
    else SymbolTable.declare scope ⟨table.entries ++ [(name, id)]⟩ rest

/-- Collects the declarations of the pending items and of what is below them. -/
def SymbolTable.collectFrom (c : Catalog) (scope : TypeId) (table : SymbolTable) :
    List Value → Except InstanceError SymbolTable
  | [] => .ok table
  | item :: rest =>
    match table.declare scope (item.ownDeclarations c) with
    | .error e => .error e
    | .ok table =>
      if item.opensScope c then collectFrom c scope table rest
      else collectFrom c scope table ((item.children c).map (·.2) ++ rest)
termination_by pending => totalSize pending
decreasing_by
  · have := sizeOf_pos item
    simp
    omega
  · have := totalSize_children_lt c item
    simp
    omega

/-- The table of the symbols declared at and below a scope. -/
def SymbolTable.collect (c : Catalog) (scope : Record) : Except InstanceError SymbolTable :=
  match SymbolTable.declare scope.type ⟨[]⟩ ((Value.record scope).ownDeclarations c) with
  | .error e => .error e
  | .ok table =>
    table.collectFrom c scope.type (((Value.record scope).children c).map (·.2))

namespace Record

def symbols? (r : Record) : Option SymbolTable :=
  r.node.bind (·.symbols)

/-- The first node below a scope with the number that the scope's table gives for a symbol. -/
def resolveSymbol? (c : Catalog) (r : Record) (name : String) : Option Record := do
  let table ← r.symbols?
  let id ← table.find? name
  ((Value.record r).items c .preOrder).findSome? fun
    | .record s => if s.node.any (·.id == id) then some s else none
    | _ => none

end Record

end TypedTree
