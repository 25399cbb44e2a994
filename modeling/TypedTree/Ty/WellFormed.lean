import TypedTree.Ty.Text

/-!
# Well-formed type descriptions

A description is well formed when its unions and literals are not empty, elements of sets and keys
of maps are hashable, applications fit the generic type they apply, and all variables are in scope.
-/

namespace TypedTree

/-- Why a description is not well formed. -/
inductive TyFault where
  | emptyLiteral
  | emptyUnion
  | unhashableElement (element : Ty)
  | unhashableKey (key : Ty)
  | outOfScope (name : String)
  | notGeneric (type : TypeId)
  | arity (generic : TypeId) (expected found : Nat)
deriving Repr

def TyFault.message (c : Catalog) : TyFault → String
  | .emptyLiteral => "a literal type needs at least one value"
  | .emptyUnion => "a union needs at least one alternative"
  | .unhashableElement element => s!"set element type `{element.text c}` is not hashable"
  | .unhashableKey key => s!"mapping key type `{key.text c}` is not hashable"
  | .outOfScope name => s!"type variable `{name}` is not a parameter of the record"
  | .notGeneric type => s!"`{c.typeName type}` is not a generic record type"
  | .arity generic expected found =>
    s!"`{c.typeName generic}` expects {expected} type argument(s), got {found}"

namespace Ty

mutual

/-- Whether values of the type may be elements of sets and keys of maps. -/
def isHashable (c : Catalog) : Ty → Bool
  | .list _ | .set _ | .map _ _ => false
  | .optional inner => inner.isHashable c
  | .union alternatives => allHashable c alternatives
  | .tuple elements => allHashable c elements
  | .record t => (c.schema t).flags.hashable
  | .apply generic _ => (c.schema generic).flags.hashable
  | .any | .scalar _ | .literal _ | .enum _ | .var _ _ => true
termination_by structural t => t

/-- Whether all the types are hashable. -/
def allHashable (c : Catalog) : List Ty → Bool
  | [] => true
  | t :: ts => t.isHashable c && allHashable c ts
termination_by structural ts => ts

end

/-- Whether a variable of the given name may appear. Without a scope every variable may. -/
def inScope (scope : Option (List TyVar)) (name : String) : Bool :=
  match scope with
  | none => true
  | some vars => vars.any (·.name == name)

mutual

/-- Reports the first fault of a description. -/
def check (c : Catalog) (scope : Option (List TyVar)) : Ty → Except TyFault Unit
  | .any | .scalar _ | .enum _ | .record _ => .ok ()
  | .literal values => if values.isEmpty then .error .emptyLiteral else .ok ()
  | .optional inner => inner.check c scope
  | .union alternatives =>
    if alternatives.isEmpty then .error .emptyUnion else checkAll c scope alternatives
  | .tuple elements => checkAll c scope elements
  | .list element => element.check c scope
  | .set element => do
    element.check c scope
    if element.isHashable c then .ok () else .error (.unhashableElement element)
  | .map key value => do
    key.check c scope
    value.check c scope
    if key.isHashable c then .ok () else .error (.unhashableKey key)
  | .var name _ => if inScope scope name then .ok () else .error (.outOfScope name)
  | .apply generic arguments =>
    let params := (c.schema generic).params
    if params.isEmpty then .error (.notGeneric generic)
    else if params.length ≠ arguments.length then
      .error (.arity generic params.length arguments.length)
    else checkAll c scope arguments
termination_by structural t => t

/-- Reports the first fault of several descriptions. -/
def checkAll (c : Catalog) (scope : Option (List TyVar)) : List Ty → Except TyFault Unit
  | [] => .ok ()
  | t :: ts => do
    t.check c scope
    checkAll c scope ts
termination_by structural ts => ts

end

end Ty

end TypedTree
