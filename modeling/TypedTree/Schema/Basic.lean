import TypedTree.Ty.Basic

/-!
# Schemas

The schema of a record type: its ordered field table with an index of the names, its flags, its
ancestors and, for a generic type, its parameters. Schemas are plain data. Functions that a declaration supplies (factories,
converters and checks) are referred to by number and kept elsewhere. All schemas live in a catalog,
where the place of a schema is the identity of its type.
-/

namespace TypedTree

/-- Number of a function that a declaration supplies. -/
abbrev HookId := Nat

abbrev SessionId := Nat

/-- In what a field takes part. -/
structure FieldFlags where
  init : Bool := true
  eq : Bool := true
  order : Bool := true
  hash : Bool := true
  repr : Bool := true
deriving DecidableEq, Repr

/-- The role of a field: a child, a data annotation, or internal. -/
inductive FieldKind where
  | child
  | note
  | internal
deriving DecidableEq, Repr

namespace FieldKind

/-- The naming convention of nodes: a name that ends in `_attr_` is an annotation, any other name
that ends in an underscore is internal, and all else are children. -/
def classify (name : String) : FieldKind :=
  let ending := name.toList.reverse
  if "_attr_".toList.reverse.isPrefixOf ending then .note
  else if "_".toList.isPrefixOf ending then .internal
  else .child

end FieldKind

/-- What a field holds when no argument is given. -/
inductive FieldDefault where
  | required
  | value (v : Value)
  /-- A value made afresh for each instance. -/
  | factory (hook : HookId)

/-- Whether an argument has to be given. -/
def FieldDefault.isRequired : FieldDefault → Bool
  | .required => true
  | _ => false

/-- A field of a schema. -/
structure Field where
  name : String
  type : Ty
  default : FieldDefault
  converter : Option HookId
  /-- Whether scalar arguments are coerced to the field's type. -/
  coerces : Bool
  checks : List HookId
  flags : FieldFlags
  kind : FieldKind

/-- Where the fields of a table stand, by name. The latest entry of a name counts. -/
structure FieldIndex where
  entries : List (String × Nat) := []
deriving DecidableEq, Repr

namespace FieldIndex

/-- The place that is recorded for a name. -/
def find? (index : FieldIndex) (name : String) : Option Nat :=
  index.entries.lookup name

/-- Records the place of a name, also if one is recorded already. -/
def insert (index : FieldIndex) (name : String) (slot : Nat) : FieldIndex :=
  ⟨(name, slot) :: index.entries⟩

/-- Records the places of fields that stand side by side, the first one at the given place. -/
def addFields (index : FieldIndex) (slot : Nat) : List Field → FieldIndex
  | [] => index
  | f :: fs => (index.insert f.name slot).addFields (slot + 1) fs

/-- The index of a field table. -/
def ofFields (fields : List Field) : FieldIndex :=
  addFields {} 0 fields

end FieldIndex

/-- Plain records and tree nodes. -/
inductive RecordKind where
  | plain
  | node
deriving DecidableEq, Repr

/-- Options of a record type. -/
structure SchemaFlags where
  /-- Fields cannot be assigned after construction. -/
  frozen : Bool := false
  /-- Instances may be elements of sets and keys of maps. -/
  hashable : Bool := false
  /-- Instances can be ordered. -/
  ordered : Bool := false
  /-- The type has no instances of its own. -/
  abstract : Bool := false
  /-- Instances hold a table of the symbols declared below them. -/
  scope : Bool := false
deriving DecidableEq, Repr

/-- A generic type with its arguments. -/
structure Application where
  generic : TypeId
  arguments : List Ty
deriving DecidableEq, Repr

/-- The schema of a record type. -/
structure Schema where
  name : String
  kind : RecordKind
  flags : SchemaFlags
  params : List TyVar
  fields : List Field
  /-- Where the fields stand. -/
  index : FieldIndex
  rootChecks : List HookId
  /-- The types derived from, nearest first. -/
  ancestors : List TypeId
  /-- The application that this type is, if it was made from a generic type. -/
  origin : Option Application
  session : SessionId

instance : Inhabited Schema :=
  ⟨⟨"", .plain, {}, [], [], {}, [], [], none, 0⟩⟩

namespace Schema

/-- Whether the instances are tree nodes. -/
def isNode (s : Schema) : Bool :=
  s.kind == .node

/-- Whether the type has parameters. -/
def isGeneric (s : Schema) : Bool :=
  !s.params.isEmpty

/-- The place of the field of the given name, as the index has it. -/
def slot? (s : Schema) (name : String) : Option Nat :=
  s.index.find? name

/-- The field of the given name, which stands where the index says. -/
def field? (s : Schema) (name : String) : Option Field :=
  (s.slot? name).bind (s.fields[·]?)

/-- The type derived from. -/
def parent? (s : Schema) : Option TypeId :=
  s.ancestors.head?

/-- Pairs the names of the fields that satisfy a condition with what stands at their places. -/
def select {α : Type} (s : Schema) (p : Field → Bool) (xs : List α) : List (String × α) :=
  (s.fields.zip xs).filterMap fun (f, x) => if p f then some (f.name, x) else none

end Schema

/-- An enumeration: a name and the names of its members. -/
structure EnumType where
  name : String
  members : List String
deriving DecidableEq, Repr

instance : Inhabited EnumType := ⟨⟨"", []⟩⟩

/-- All record types and enumerations, each at the place that is its identity. -/
structure Catalog where
  schemas : List Schema := []
  enums : List EnumType := []

namespace Catalog

def schema (c : Catalog) (t : TypeId) : Schema :=
  c.schemas.getD t default

def typeName (c : Catalog) (t : TypeId) : String :=
  (c.schema t).name

def enumType (c : Catalog) (e : EnumId) : EnumType :=
  c.enums.getD e default

def memberName (c : Catalog) (m : EnumMember) : String :=
  (c.enumType m.enum).members.getD m.index ""

/-- The text of a member: the names of the enumeration and of the member. -/
def memberText (c : Catalog) (m : EnumMember) : String :=
  (c.enumType m.enum).name ++ "." ++ c.memberName m

/-- The first member of the given name. -/
def member? (c : Catalog) (e : EnumId) (name : String) : Option EnumMember :=
  ((c.enumType e).members.findIdx? (· == name)).map (⟨e, ·⟩)

/-- A type followed by the types it derives from, nearest first. -/
def lineage (c : Catalog) (t : TypeId) : List TypeId :=
  t :: (c.schema t).ancestors

/-- Whether the first type is the second or derives from it. -/
def isSubtype (c : Catalog) (t ancestor : TypeId) : Bool :=
  t == ancestor || (c.schema t).ancestors.contains ancestor

/-- Adds a schema; its type is the next identity. -/
def addSchema (c : Catalog) (s : Schema) : TypeId × Catalog :=
  (c.schemas.length, { c with schemas := c.schemas ++ [s] })

def addEnum (c : Catalog) (e : EnumType) : EnumId × Catalog :=
  (c.enums.length, { c with enums := c.enums ++ [e] })

end Catalog

namespace Record

/-- The schema of a record's type. -/
def schema (c : Catalog) (r : Record) : Schema :=
  c.schema r.type

def isNode (r : Record) : Bool :=
  r.node.isSome

/-- Whether the record's type is the given one or derives from it. -/
def isInstance (c : Catalog) (r : Record) (t : TypeId) : Bool :=
  c.isSubtype r.type t

end Record

end TypedTree
