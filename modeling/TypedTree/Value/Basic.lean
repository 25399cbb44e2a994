import TypedTree.Numeric.Binary64

/-!
# Values

The values that fields of records hold: scalars, members of enumerations, four kinds of containers
and nested records. Record types and enumerations are referred to by identity, which is their
place in a catalog, so that two types of one name stay apart.
-/

namespace TypedTree

/-- Identity of a record type. -/
abbrev TypeId := Nat

abbrev EnumId := Nat

/-- Identity of a node within its session. -/
abbrev NodeId := UInt64

/-- A member of an enumeration, by its position. -/
structure EnumMember where
  enum : EnumId
  index : Nat
deriving DecidableEq, Repr

/-- The symbols declared below a node, in the order of declaration, each with the node that
declares it. -/
structure SymbolTable where
  entries : List (String × NodeId)
deriving DecidableEq, Repr

/-- What a node carries besides its fields and annotations. -/
structure NodeInfo where
  id : NodeId
  symbols : Option SymbolTable := none
deriving DecidableEq, Repr

mutual

/-- A field value. Sets and maps keep the order of insertion. -/
inductive Value where
  | none
  | bool (b : Bool)
  | int (n : Int64)
  | float (x : Binary64)
  | str (s : String)
  | bytes (b : List UInt8)
  | member (m : EnumMember)
  | tuple (items : List Value)
  | list (items : List Value)
  | set (items : List Value)
  | map (entries : List (Value × Value))
  | record (r : Record)

/-- An instance of a record type: one value per field, in the order of the type's field table.
A record is a node when it has node information; only nodes have dynamic annotations. -/
structure Record where
  type : TypeId
  values : List Value
  node : Option NodeInfo
  annotations : List (String × Value)

end

instance : Inhabited Value := ⟨.none⟩

instance : Inhabited Record := ⟨⟨0, [], none, []⟩⟩

namespace Value

def isNone : Value → Bool
  | .none => true
  | _ => false

/-- The truth value, of a truth value. -/
def asBool? : Value → Option Bool
  | .bool b => some b
  | _ => Option.none

def asInt? : Value → Option Int64
  | .int n => some n
  | _ => Option.none

/-- The number, of a floating-point number. -/
def asFloat? : Value → Option Binary64
  | .float x => some x
  | _ => Option.none

def asString? : Value → Option String
  | .str s => some s
  | _ => Option.none

def asMember? : Value → Option EnumMember
  | .member m => some m
  | _ => Option.none

/-- The elements, of a tuple or list. -/
def asItems? : Value → Option (List Value)
  | .tuple items => some items
  | .list items => some items
  | _ => Option.none

def asRecord? : Value → Option Record
  | .record r => some r
  | _ => Option.none

def isNode : Value → Bool
  | .record r => r.node.isSome
  | _ => false

end Value

/-- A value allowed by a literal type. -/
inductive Literal where
  | none
  | bool (b : Bool)
  | int (n : Int64)
  | str (s : String)
  | bytes (b : List UInt8)
  | member (m : EnumMember)
deriving DecidableEq, Repr

namespace Literal

def toValue : Literal → Value
  | .none => .none
  | .bool b => .bool b
  | .int n => .int n
  | .str s => .str s
  | .bytes b => .bytes b
  | .member m => .member m

/-- Whether the value is the one allowed; a truth value is never an integer. -/
def allows : Literal → Value → Bool
  | .none, .none => true
  | .bool a, .bool b => a == b
  | .int a, .int b => a == b
  | .str a, .str b => a == b
  | .bytes a, .bytes b => a == b
  | .member a, .member b => a == b
  | _, _ => false

/-- The literal of a value, for those kinds of values that have one. -/
def ofValue? : Value → Option Literal
  | .none => some .none
  | .bool b => some (.bool b)
  | .int n => some (.int n)
  | .str s => some (.str s)
  | .bytes b => some (.bytes b)
  | .member m => some (.member m)
  | _ => Option.none

end Literal

end TypedTree
