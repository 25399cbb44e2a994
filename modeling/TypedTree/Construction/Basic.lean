import TypedTree.Construction.Hooks
import TypedTree.Tree.Symbols
import TypedTree.Validation.Basic
import TypedTree.Value.Coercion

/-!
# Construction

Instances come out of construction only. The arguments are looked at first. Then each field in turn
takes its argument or its default, converts it, validates it and runs its checks. A node is then
numbered, the instance passes its root checks, and a scope collects its symbols. The first failure
ends construction.
-/

namespace TypedTree

/-- Checks the names of arguments from left to right: each has to name a field that construction
accepts, and none may come twice. -/
def checkArguments (t : TypeId) (s : Schema) (seen : List String) :
    List String → Except InstanceError Unit
  | [] => .ok ()
  | name :: rest =>
    if (s.field? name).any (·.flags.init) then
      if seen.contains name then .error (.duplicateArgument t name)
      else checkArguments t s (name :: seen) rest
    else .error (.unexpectedArgument t name)

/-- The argument of a field, or its default. -/
def rawValue (h : Hooks) (c : Catalog) (t : TypeId) (arguments : List (String × Value))
    (f : Field) : Construct Value :=
  match arguments.lookup f.name with
  | some v => pure v
  | none =>
    match f.default with
    | .value v => pure v
    | .factory hook => liftM (h.factory hook c)
    | .required => throw (.missingField t f.name)

/-- The value after the field's converter or, without one, its coercion. -/
def convertValue (h : Hooks) (c : Catalog) (t : TypeId) (f : Field) (raw : Value) :
    Construct Value := do
  match f.converter with
  | some hook =>
    match ← liftM (h.converter hook c raw) with
    | .ok v => pure v
    | .error text => throw (.conversionFailed t f.name raw text)
  | none =>
    if f.coerces then
      match f.type.coerce raw with
      | .ok v => pure v
      | .error fault => throw (.conversionFailed t f.name raw fault.message)
    else pure raw

/-- Fails unless the value matches the field's type. -/
def validateValue (c : Catalog) (t : TypeId) (f : Field) (v : Value) : Construct Unit :=
  match f.type.validate c v with
  | .ok () => pure ()
  | .error reason => throw (.typeMismatch t f.name v reason)

def runChecks (h : Hooks) (c : Catalog) (t : TypeId) (f : Field) (v : Value) :
    List HookId → Construct Unit
  | [] => pure ()
  | hook :: rest => do
    match ← liftM (h.check hook c f v) with
    | .ok () => runChecks h c t f v rest
    | .error text => throw (.checkFailed t f.name v text)

/-- The value that a field of a new instance holds. -/
def fieldValue (h : Hooks) (c : Catalog) (t : TypeId) (arguments : List (String × Value))
    (f : Field) : Construct Value := do
  let raw ← rawValue h c t arguments f
  let v ← convertValue h c t f raw
  validateValue c t f v
  runChecks h c t f v f.checks
  return v

def fieldValues (h : Hooks) (c : Catalog) (t : TypeId) (arguments : List (String × Value)) :
    List Field → Construct (List Value)
  | [] => return []
  | f :: fs => do
    let v ← fieldValue h c t arguments f
    let vs ← fieldValues h c t arguments fs
    return v :: vs

def runRootChecks (h : Hooks) (c : Catalog) (r : Record) : List HookId → Construct Unit
  | [] => pure ()
  | hook :: rest => do
    match ← liftM (h.rootCheck hook c r) with
    | .ok () => runRootChecks h c r rest
    | .error text => throw (.rootCheckFailed r.type text)

/-- Numbers a new node. -/
def mintNode (session : SessionId) : Construct NodeInfo := do
  let id ← modifyGet fun s => s.mint session
  return ⟨id, none⟩

/-- Gives a scope the table of its symbols. -/
def collectSymbols (c : Catalog) (r : Record) : Construct Record :=
  if (r.schema c).flags.scope then
    match SymbolTable.collect c r with
    | .ok table =>
      pure { r with node := r.node.map fun node => { node with symbols := some table } }
    | .error e => throw e
  else pure r

/-- Builds an instance of a type from named arguments. -/
def construct (h : Hooks) (c : Catalog) (t : TypeId) (arguments : List (String × Value)) :
    Construct Record := do
  let s := c.schema t
  if s.flags.abstract then throw (.notInstantiable t)
  match checkArguments t s [] (arguments.map (·.1)) with
  | .error e => throw e
  | .ok () => pure ()
  let values ← fieldValues h c t arguments s.fields
  let node ← if s.isNode then some <$> mintNode s.session else pure none
  let r : Record := ⟨t, values, node, []⟩
  runRootChecks h c r s.rootChecks
  collectSymbols c r

end TypedTree
