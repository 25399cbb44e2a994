import TypedTree.Schema.Basic

/-!
# Handlers by type name

A table gives handlers to names of record types. For a type the most specific handler counts: that
of its own name, or else of the nearest ancestor that has one.
-/

namespace TypedTree

/-- Handlers by type name. -/
structure HandlerTable (α : Type) where
  handlers : List (String × α) := []

namespace HandlerTable

variable {α : Type}

/-- The handler registered under exactly this name. -/
def get? (table : HandlerTable α) (name : String) : Option α :=
  table.handlers.lookup name

/-- Replaces the handler of a name, or adds one. -/
def put (name : String) (handler : α) : List (String × α) → List (String × α)
  | [] => [(name, handler)]
  | (n, h) :: rest => if n = name then (n, handler) :: rest else (n, h) :: put name handler rest

/-- Registers a handler, and gives the one that it replaces. -/
def register (table : HandlerTable α) (name : String) (handler : α) :
    Option α × HandlerTable α :=
  (table.get? name, ⟨put name handler table.handlers⟩)

def insert (table : HandlerTable α) (name : String) (handler : α) : HandlerTable α :=
  (table.register name handler).2

/-- The most specific handler for a type, with the name that it is registered under. -/
def resolve? (table : HandlerTable α) (c : Catalog) (t : TypeId) : Option (String × α) :=
  (c.lineage t).findSome? fun s =>
    let name := c.typeName s
    (table.get? name).map fun handler => (name, handler)

def size (table : HandlerTable α) : Nat :=
  table.handlers.length

end HandlerTable

end TypedTree
