import TypedTree.Schema.Error

/-!
# Declarations

A declaration is what a user writes to make a record type; building it checks it and gives the
schema. A type that derives from another one starts with its parent's field table, where it
replaces the fields that it declares again and appends the others, and with its parent's
parameters and root checks.
-/

namespace TypedTree

structure FieldDecl where
  name : String
  type : Option Ty := none
  default : Option Value := none
  factory : Option HookId := none
  converter : Option HookId := none
  /-- Whether scalar arguments are coerced; a converter takes precedence. -/
  coerces : Bool := false
  /-- Whether construction accepts an argument. -/
  init : Bool := true
  /-- Whether the field takes part in equality and in ordering. -/
  compare : Bool := true
  /-- Whether the field takes part in hashing; unless set, it does when it takes part in equality. -/
  hash : Option Bool := none
  /-- Whether the field is shown. -/
  repr : Bool := true

/-- In what a declared field takes part: equality and ordering cannot be told apart. -/
def FieldDecl.flags (f : FieldDecl) : FieldFlags where
  init := f.init
  eq := f.compare
  order := f.compare
  hash := f.hash.getD f.compare
  repr := f.repr

/-- The declaration of a record type. -/
structure Declaration where
  session : SessionId
  name : String
  kind : RecordKind := .plain
  parent : Option TypeId := none
  params : List TyVar := []
  fields : List FieldDecl := []
  /-- Checks for declared or inherited fields. -/
  checks : List (String × HookId) := []
  rootChecks : List HookId := []
  frozen : Option Bool := none
  /-- Whether instances are hashable; unless set, they are when they are frozen. -/
  hashable : Option Bool := none
  ordered : Option Bool := none
  abstract : Bool := false
  scope : Bool := false

namespace Declaration

/-- The schema derived from. -/
def parentSchema? (c : Catalog) (d : Declaration) : Option Schema :=
  d.parent.map c.schema

/-- A type that derives from a node type is a node type. -/
def recordKind (c : Catalog) (d : Declaration) : RecordKind :=
  if (d.parentSchema? c).any (·.isNode) then .node else d.kind

/-- Adds own parameters behind the inherited ones. A parameter of an inherited name is the
inherited one, but none may be declared twice. -/
def mergeParams (record : String) (own : List String) (params : List TyVar) :
    List TyVar → Except SchemaError (List TyVar)
  | [] => .ok params
  | p :: ps =>
    if own.contains p.name then .error (.duplicateParam record p.name)
    else mergeParams record (p.name :: own) (p.addTo params) ps

/-- The options of the type. Frozen and ordered are inherited unless they are set, a scope is
always inherited, and an abstract parent has instantiable descendants. -/
def mergedFlags (c : Catalog) (d : Declaration) : SchemaFlags :=
  let inherited := ((d.parentSchema? c).map (·.flags)).getD {}
  let frozen := d.frozen.getD inherited.frozen
  { frozen
    hashable := d.hashable.getD frozen
    ordered := d.ordered.getD inherited.ordered
    abstract := d.abstract
    scope := d.scope || inherited.scope }

def fieldDefault (record : String) (f : FieldDecl) : Except SchemaError FieldDefault :=
  match f.default, f.factory with
  | some _, some _ => .error (.conflictingDefault record f.name)
  | some v, none => .ok (.value v)
  | none, some hook => .ok (.factory hook)
  | none, none => .ok .required

/-- The role of a field: plain records have children only. -/
def fieldKind (kind : RecordKind) (name : String) : FieldKind :=
  match kind with
  | .node => .classify name
  | .plain => .child

/-- The flags of a field: an annotation takes no part in comparison. -/
def fieldFlags (kind : FieldKind) (flags : FieldFlags) : FieldFlags :=
  if kind = .note then { flags with eq := false, order := false, hash := false } else flags

def buildField (c : Catalog) (record : String) (kind : RecordKind) (params : List TyVar)
    (f : FieldDecl) : Except SchemaError Field := do
  match f.type with
  | none => throw (.missingType record f.name)
  | some type =>
    match type.check c (some params) with
    | .error fault => throw (.invalidType record f.name fault)
    | .ok () => pure ()
    let default ← fieldDefault record f
    if !f.flags.init && default.isRequired then throw (.noInitWithoutDefault record f.name)
    let kind := fieldKind kind f.name
    let flags := fieldFlags kind f.flags
    if flags.hash && !flags.eq then throw (.hashWithoutEq record f.name)
    return {
      name := f.name, type, default, converter := f.converter
      coerces := f.converter.isNone && f.coerces
      checks := [], flags, kind }

/-- Replaces the field of the same name, or appends the field. -/
def putField (f : Field) : List Field → List Field
  | [] => [f]
  | g :: rest => if g.name = f.name then f :: rest else g :: putField f rest

/-- Puts the declared fields into the inherited table. None may be declared twice. -/
def mergeFields (c : Catalog) (record : String) (kind : RecordKind) (params : List TyVar)
    (own : List String) (table : List Field) : List FieldDecl → Except SchemaError (List Field)
  | [] => .ok table
  | f :: fs => do
    if own.contains f.name then throw (.duplicateField record f.name)
    let field ← buildField c record kind params f
    mergeFields c record kind params (f.name :: own) (putField field table) fs

/-- Adds a check behind those that the field has. -/
def addCheck (hook : HookId) (f : Field) : Field :=
  { f with checks := f.checks ++ [hook] }

/-- Adds checks to the fields that the index has under their names. -/
def attachChecks (record : String) (index : FieldIndex) (table : List Field) :
    List (String × HookId) → Except SchemaError (List Field)
  | [] => .ok table
  | (name, hook) :: rest =>
    match index.find? name with
    | some slot => attachChecks record index (table.modify slot (addCheck hook)) rest
    | none => .error (.unknownCheckedField record name)

/-- Checks a declaration and gives its schema. -/
def build (c : Catalog) (d : Declaration) : Except SchemaError Schema := do
  let parent := d.parentSchema? c
  let kind := d.recordKind c
  let params ← mergeParams d.name [] ((parent.map (·.params)).getD []) d.params
  let flags := d.mergedFlags c
  if flags.scope && kind != .node then throw (.scopeNotNode d.name)
  let inherited := (parent.map (·.fields)).getD []
  let table ← mergeFields c d.name kind params [] inherited d.fields
  let index := FieldIndex.ofFields table
  let fields ← attachChecks d.name index table d.checks
  return {
    name := d.name, kind, flags, params, fields, index
    rootChecks := (parent.map (·.rootChecks)).getD [] ++ d.rootChecks
    ancestors := (d.parent.map c.lineage).getD []
    origin := none
    session := d.session }

end Declaration

def Catalog.declare (c : Catalog) (d : Declaration) : Except SchemaError (TypeId × Catalog) :=
  (d.build c).map c.addSchema

end TypedTree
