import TypedTree.Record.Error

/-!
# Fields of records

Reading and assigning the fields of a record. Nodes also have annotations: declared fields that
follow the naming convention, and names that no schema declares. Assignment does not validate, and
it is refused on instances of a frozen type.
-/

namespace TypedTree.Record

/-- All fields in the order of the field table. -/
def fields (c : Catalog) (r : Record) : List (String × Value) :=
  (r.schema c).select (fun _ => true) r.values

/-- The value of a field, or of a dynamic annotation. -/
def get? (c : Catalog) (r : Record) (name : String) : Option Value :=
  match (r.schema c).slot? name with
  | some slot => r.values[slot]?
  | none => r.annotations.lookup name

/-- The value of a field that has to be there. -/
def get (c : Catalog) (r : Record) (name : String) : Except InstanceError Value :=
  match r.get? c name with
  | some v => .ok v
  | none => .error (.unknownField r.type name)

/-- The place of a declared field that may be assigned. -/
def writableSlot (c : Catalog) (r : Record) (name : String) : Except InstanceError Nat :=
  match (r.schema c).slot? name with
  | none => .error (.unknownField r.type name)
  | some slot =>
    if (r.schema c).flags.frozen then .error (.frozen r.type name) else .ok slot

/-- Puts a value at a place of the field table. -/
def setSlot (r : Record) (slot : Nat) (v : Value) : Record :=
  { r with values := r.values.set slot v }

/-- Assigns a declared field. -/
def set (c : Catalog) (r : Record) (name : String) (v : Value) : InPlace InstanceError Record :=
  match r.writableSlot c name with
  | .error e => .error (e, r)
  | .ok slot => .ok (r.setSlot slot v)

/-- Writes to the value of a declared field in place. -/
def modify (c : Catalog) (r : Record) (name : String) (change : Value → Value) :
    InPlace InstanceError Record :=
  match r.writableSlot c name with
  | .error e => .error (e, r)
  | .ok slot => .ok (r.setSlot slot (change (r.values.getD slot .none)))

/-! ## Roles of node fields -/

/-- The fields of one role, in the order of the field table. -/
def ofKind (c : Catalog) (r : Record) (kind : FieldKind) : List (String × Value) :=
  (r.schema c).select (·.kind == kind) r.values

def children (c : Catalog) (r : Record) : List (String × Value) :=
  r.ofKind c .child

def internals (c : Catalog) (r : Record) : List (String × Value) :=
  r.ofKind c .internal

/-- The declared annotations, then the dynamic ones. -/
def allAnnotations (c : Catalog) (r : Record) : List (String × Value) :=
  r.ofKind c .note ++ r.annotations

def annotated? (c : Catalog) (r : Record) (name : String) : Option Value :=
  (r.allAnnotations c).lookup name

/-- Replaces the value of a name, or adds the name behind the others. -/
def putNote (name : String) (v : Value) :
    List (String × Value) → List (String × Value)
  | [] => [(name, v)]
  | (n, w) :: rest => if n = name then (n, v) :: rest else (n, w) :: putNote name v rest

/-- Assigns an annotation: a declared one in place, any other undeclared name as a dynamic
annotation. Other declared fields are no annotations, and plain records have no dynamic ones. -/
def annotate (c : Catalog) (r : Record) (name : String) (v : Value) :
    InPlace InstanceError Record :=
  if (r.schema c).flags.frozen then .error (.frozen r.type name, r)
  else
    match (r.schema c).slot? name with
    | some slot =>
      if ((r.schema c).fields[slot]?.map (·.kind)) = some .note then
        .ok (r.setSlot slot v)
      else .error (.unexpectedArgument r.type name, r)
    | none =>
      if r.isNode then .ok { r with annotations := putNote name v r.annotations }
      else .error (.unknownField r.type name, r)

end TypedTree.Record
